import Rollout.Proofs.Cdp.Deployment
import Rollout.Proofs.Deployments.Merging

/-!
Contract: the deployments file before and after a registry is recorded in it, whatever the
file contains.

Owns:
- the value that the bytes of a file stand for;
- that a file is either left as it is or holds the text of that value with the registry
  merged into it, and which of the two it is.

Does not own: files that the operating system does not let be read or replaced.
-/

namespace Rollout.Cdp

open Deployments (HasPlace Merges)

variable {options : Options} {registry : Registry} {content : Option (List UInt8)}
  {value : Json} {text path : String}

/-- The value that is read from bytes, if they are the text of one that can be read. -/
def valueOfBytes? (bytes : List UInt8) : Option Json :=
  (Text.decodeUtf8? bytes).bind Json.ofText?

def fileOf : Option (List UInt8) → FileState
  | none => .missing
  | some bytes => .ofBytes bytes

/-- The value that a registry is merged into: an empty object if there is no file. -/
def startingValue? : Option (List UInt8) → Option Json
  | none => some (.object [])
  | some bytes => valueOfBytes? bytes

/-! ## The value in a file -/

private theorem base_fileOf_eq_ok_iff :
    Deployments.base (fileOf content) = .ok value ↔ startingValue? content = some value := by
  cases content with
  | none => simp [fileOf, startingValue?, Deployments.base, FileState.isPresent]
  | some bytes =>
      simp only [fileOf, startingValue?, valueOfBytes?, FileState.ofBytes]
      cases Text.decodeUtf8? bytes with
      | none => simp [Deployments.base, Deployments.value, FileState.isPresent, FileState.read]
      | some decoded =>
          simp only [Deployments.base, Deployments.value, FileState.isPresent, FileState.read,
            Option.bind_some, if_pos]
          cases Json.ofText? decoded <;> simp

private theorem nested_startingValue? (starts : startingValue? content = some value) :
    value.Nested Json.depthLimit := by
  cases content with
  | none =>
      cases starts
      exact ⟨.nil, nofun⟩
  | some bytes =>
      obtain ⟨decoded, _, read⟩ := Option.bind_eq_some_iff.mp starts
      exact Json.nested_of_ofText? read

private theorem save_fileOf (content : Option (List UInt8)) (text : String) :
    (fileOf content).save text = .ok (.text text) := by
  cases content with
  | none => rfl
  | some bytes =>
      simp only [fileOf, FileState.ofBytes]
      cases Text.decodeUtf8? bytes <;> rfl

/-! ## The text to be saved -/

private theorem updated_fileOf_eq_ok_iff :
    Deployments.updated path registry (fileOf content) = .ok text ↔
      ∃ value merged, startingValue? content = some value ∧
        Deployments.merge? registry value = some merged ∧ text = merged.pretty := by
  simp only [← base_fileOf_eq_ok_iff, Deployments.updated]
  cases Deployments.base (fileOf content) with
  | error fault => simp
  | ok value =>
      simp only [Except.ok.injEq, exists_and_left, exists_eq_left']
      cases Deployments.merge? registry value <;> simp [eq_comm]

/-- There is a text to be saved exactly if there is a place for the registry. -/
private theorem exists_updated_iff :
    (∃ text, Deployments.updated path registry (fileOf content) = .ok text) ↔
      ∃ value, startingValue? content = some value ∧ HasPlace value := by
  simp only [updated_fileOf_eq_ok_iff]
  constructor
  · rintro ⟨text, value, merged, starts, canMerge, _⟩
    exact ⟨value, starts, Deployments.exists_merge?_iff.mp ⟨merged, canMerge⟩⟩
  · rintro ⟨value, starts, place⟩
    have canMerge : ∃ merged, Deployments.merge? registry value = some merged :=
      Deployments.exists_merge?_iff.mpr place
    obtain ⟨merged, isMerged⟩ := canMerge
    exact ⟨merged.pretty, value, merged, starts, isMerged, rfl⟩

/-- The text to be saved is that of an object which the registry is merged into. -/
theorem exists_merges_of_updated
    (updated : Deployments.updated path registry (fileOf content) = .ok text) :
    ∃ members merged, startingValue? content = some (.object members) ∧
      Merges registry members merged ∧ text = (Json.object merged).pretty := by
  obtain ⟨value, later, starts, isLater, rfl⟩ := updated_fileOf_eq_ok_iff.mp updated
  have place : HasPlace value := Deployments.exists_merge?_iff.mp ⟨later, isLater⟩
  obtain ⟨members, rfl⟩ : ∃ members, value = .object members :=
    place.imp fun _ isObject => isObject.1
  obtain ⟨merged, canMerge, merges⟩ :=
    Deployments.exists_merges_of_hasPlace (nested_startingValue? starts) place registry
  cases isLater.symm.trans canMerge
  exact ⟨members, merged, starts, merges, rfl⟩

/-! ## Saving -/

/-- The file is saved exactly if there is a text to be saved. -/
theorem play_persist_fileOf
    {σ : Type}
    {signer : String}
    {backend : Backend σ}
    {memory : σ}
    (live : options.dryRun = false)
    (registry : Registry)
    (content : Option (List UInt8)) :
    (persist options (fileOf content) registry).play (onDisk signer backend)
        (memory, fileOf content) =
      match Deployments.updated options.deploymentsPath registry (fileOf content) with
      | .ok text => ⟨.ok (), [.save text], (memory, .text text)⟩
      | .error fault => ⟨.error (.deployments fault), [], (memory, fileOf content)⟩ := by
  rw [persist, live]
  cases Deployments.updated options.deploymentsPath registry (fileOf content) with
  | error fault => rfl
  | ok text => simp [Dialogue.play_ask, onDisk, save_fileOf]

/-- Nothing is recorded in a file whose bytes are not the text of a value with a place for
deployments. -/
private theorem no_place_iff :
    (¬ ∃ value, startingValue? content = some value ∧ HasPlace value) ↔
      ∃ bytes, content = some bytes ∧
        ∀ value, valueOfBytes? bytes = some value → ¬ HasPlace value := by
  cases content with
  | none =>
      have place : HasPlace (.object []) := ⟨[], rfl, nofun⟩
      simp [startingValue?, place]
  | some bytes => simp [startingValue?]

/-- Recording a registry, whatever the file contains: it fails exactly if there is a file
whose bytes are not the text of an object with nothing, null or an object under the name of
the deployments. Then nothing is saved and the file is as it was. Otherwise the file holds
the text of the one object that comes of merging the registry into what was there. -/
theorem persist_merges_or_leaves
    {σ : Type}
    (live : options.dryRun = false)
    (signer : String)
    (backend : Backend σ)
    (memory : σ)
    (registry : Registry)
    (content : Option (List UInt8)) :
    let played := (persist options (fileOf content) registry).play (onDisk signer backend)
      (memory, fileOf content)
    ((∃ fault, played.value = .error fault) ↔
        ∃ bytes, content = some bytes ∧
          ∀ value, valueOfBytes? bytes = some value → ¬ HasPlace value) ∧
      ((∃ fault, played.value = .error fault) →
        played.questions = [] ∧ played.state = (memory, fileOf content)) ∧
      (played.value = .ok () →
        ∃ members merged, startingValue? content = some (.object members) ∧
          (∀ others, Merges registry members others ↔ others = merged) ∧
          played.state = (memory, .text (Json.object merged).pretty)) := by
  intro played
  have isPlayed : played = _ := play_persist_fileOf live registry content
  have refused :
      (∃ bytes, content = some bytes ∧
          ∀ value, valueOfBytes? bytes = some value → ¬ HasPlace value) ↔
        ¬ ∃ text, Deployments.updated options.deploymentsPath registry (fileOf content) =
          .ok text := by
    rw [exists_updated_iff, no_place_iff]
  rw [refused, isPlayed]
  cases updated : Deployments.updated options.deploymentsPath registry (fileOf content) with
  | error fault => simp
  | ok text =>
      refine ⟨by simp, nofun, fun _ => ?_⟩
      obtain ⟨members, merged, starts, merges, rfl⟩ := exists_merges_of_updated updated
      refine ⟨members, merged, starts, fun others => ⟨?_, ?_⟩, rfl⟩
      · exact fun othersMerge => othersMerge.unique merges
      · exact fun same => same ▸ merges

/-- The bytes of an object in which a pool and a hub are on record beside a note. -/
def notedBytes : List UInt8 :=
  Text.encodeUtf8 ("\x7b\"note\": [1.50, null], \"deployments\": \x7b\"pool\": 7, " ++
    "\"hub\": [\"sei1old\", 3]\x7d\x7d")

def hubTwice : Registry :=
  ⟨[.ofCreation "hub" 8 "sei1hub", .ofReuse "gate" "sei1gate" none,
    .ofReuse "hub" "sei1later" none]⟩

theorem persist_merges_or_leaves_of_notedBytes :
    let persisted (content : Option (List UInt8)) :=
      (persist .standard (fileOf content) hubTwice).play
        (onDisk "sei1deployer" Provision.obliging) ((), fileOf content)
    (persisted (some notedBytes)).value = .ok () ∧
      (∃ members merged, startingValue? (some notedBytes) = some (.object members) ∧
        (∀ others, Merges hubTwice members others ↔ others = merged) ∧
        (persisted (some notedBytes)).state = ((), .text (Json.object merged).pretty)) ∧
      (∃ fault, (persisted (some [0x5b, 0x5d])).value = .error fault) ∧
      (persisted (some [0x5b, 0x5d])).state = ((), .text "[]") := by
  intro persisted
  have live : Options.standard.dryRun = false := rfl
  have merging := persist_merges_or_leaves live "sei1deployer" Provision.obliging () hubTwice
    (some notedBytes)
  have leaving := persist_merges_or_leaves live "sei1deployer" Provision.obliging () hubTwice
    (some [0x5b, 0x5d])
  have saved : (persisted (some notedBytes)).value = .ok () := by decide +kernel
  have refused : ∃ fault, (persisted (some [0x5b, 0x5d])).value = .error fault :=
    ⟨.deployments (.write (.noRecord "deployments.json")), by decide +kernel⟩
  refine ⟨saved, merging.2.2 saved, refused, (leaving.2.1 refused).2.trans ?_⟩
  decide +kernel

end Rollout.Cdp
