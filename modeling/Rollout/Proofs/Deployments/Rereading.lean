import Rollout.Proofs.Deployments.Files

/-!
Contract: seeds read again from a file in which a registry was recorded.

Owns:
- what a file held whose seeds could be read and in which a registry could be recorded;
- that the seeds of the file afterwards are those of the registry for its names, and for
  all other names those from before.

Does not own: what becomes of the rest of the file.
-/

namespace Rollout.Deployments

variable {deployments members : List (String × Json)} {registry : Registry}
  {file saved : FileState} {known : Seeds} {path : String}

/-- What is written for a registry is the text of the merged value. -/
private theorem saved_of_write (written : write path registry file = .ok saved) :
    ∃ held merged, base file = .ok held ∧ merge? registry held = some merged ∧
      saved = .text merged.pretty := by
  unfold write updated at written
  cases isHeld : base file with
  | error fault =>
      rw [isHeld] at written
      cases written
  | ok held =>
      rw [isHeld] at written
      cases isMerged : merge? registry held with
      | none =>
          simp only [isMerged] at written
          cases written
      | some merged =>
          simp only [isMerged] at written
          refine ⟨held, merged, rfl, isMerged, ?_⟩
          cases file with
          | unreachable fault => cases written
          | blocked fault => cases written
          | _ =>
              cases written
              rfl

/-- Reading a text puts the recorded deployments in the order of their names. -/
private theorem ordered_of_ofText?
    {text : String}
    (read : Json.ofText? text = some (.object members))
    (recorded : recorded? (.object members) = some deployments) :
    Json.Ordered deployments :=
  ordered_of_heldBy? (Json.nested_of_ofText? read) (heldBy?_of_recorded? recorded)

/-- A file whose seeds can be read and in which a registry can be recorded has readable
deployments on record, in order. -/
theorem exists_recorded_of_write
    (accepted : Deployments.seeds file = .ok known)
    (written : write path registry file = .ok saved) :
    ∃ members deployments, base file = .ok (.object members) ∧
      recorded? (.object members) = some deployments ∧ Readable deployments ∧
      Json.Ordered deployments := by
  rcases missing_or_object_of_write accepted written with rfl | ⟨content, members, rfl, read⟩
  · exact ⟨[], [], rfl, rfl, nofun, .nil⟩
  · have held : value (.text content) = .ok (.object members) := by
      rw [value, FileState.read]
      simp only [read]
    obtain ⟨_, deployments, sameHeld, recorded, readable⟩ := recorded?_of_seeds rfl accepted
    cases held.symm.trans sameHeld
    exact ⟨members, deployments, held, recorded, readable, ordered_of_ofText? read recorded⟩

/-- The text that is written for a registry is read back as the value it was written
for. -/
def ReadBack (registry : Registry) (file : FileState) : Prop :=
  ∀ held merged, base file = .ok held → merge? registry held = some merged →
    Json.ofText? merged.pretty = some merged

/-- After a registry without repeated names was recorded in a file, the file says of
each of its names what the registry has on record, where a blank address counts as none,
and of every other name what it said before. -/
theorem seeds_of_write
    (accepted : Deployments.seeds file = .ok known)
    (distinct : registry.names.Nodup)
    (readBack : ReadBack registry file)
    (written : write path registry file = .ok saved) :
    ∃ later, Deployments.seeds saved = .ok later ∧
      (∀ entry ∈ registry.entries,
        later.codeId? entry.name = entry.codeId ∧
          later.address? entry.name =
            if Text.blank entry.address then none else some entry.address) ∧
      ∀ name ∉ registry.names,
        later.codeId? name = known.codeId? name ∧
          later.address? name = known.address? name := by
  obtain ⟨members, deployments, isHeld, recorded, readable, ordered⟩ :=
    exists_recorded_of_write accepted written
  obtain ⟨held, merged, sameHeld, isMerged, rfl⟩ := saved_of_write written
  cases isHeld.symm.trans sameHeld
  obtain ⟨inMerged, sameMerged, recordedAfter, _, _⟩ := merge?_object recorded registry
  cases isMerged.symm.trans sameMerged
  have readAgain : base (.text (Json.object inMerged).pretty) = .ok (.object inMerged) := by
    show value (.text (Json.object inMerged).pretty) = _
    rw [value, FileState.read]
    simp only [readBack _ _ isHeld isMerged]
  -- Both files have their seeds from what is on record in them.
  obtain ⟨before, acceptedBefore, saidBefore⟩ :=
    exists_seeds_of_base isHeld recorded readable ordered
  cases accepted.symm.trans acceptedBefore
  obtain ⟨later, acceptedLater, saidLater⟩ :=
    exists_seeds_of_base readAgain recordedAfter readable.withEntries
      (ordered_withEntries ordered)
  refine ⟨later, acceptedLater, ?_, ?_⟩
  · intro entry member
    have said : later.seed entry.name = (Seed.mk (some entry.address) entry.codeId).normal := by
      rw [saidLater, recordedSeed_withEntries distinct, Registry.find?_of_mem distinct member]
    constructor
    · rw [Seeds.codeId?, said]
      rfl
    · rw [Seeds.address?, said, Seed.address_normal]
  · intro name notRecorded
    have said : later.seed name = known.seed name := by
      rw [saidLater, saidBefore, recordedSeed_withEntries distinct,
        Registry.find?_eq_none_iff.mpr notRecorded]
    exact ⟨congrArg Seed.codeId said, congrArg Seed.address said⟩

/-- A file with one deployment as an object without an address, and one as an array. -/
def mixedFile : FileState :=
  .text ("\x7b\"deployments\": \x7b\"pool\": \x7b\"code_id\": 3\x7d, " ++
    "\"vault\": [\"sei1vault\"]\x7d\x7d")

def mixedRegistry : Registry :=
  ⟨[.ofCreation "pool" 4 " ", .ofReuse "hub" "sei1hub" none]⟩

theorem seeds_of_write_of_mixedFile :
    ∃ known saved later, Deployments.seeds mixedFile = .ok known ∧
      mixedRegistry.names.Nodup ∧
      ReadBack mixedRegistry mixedFile ∧
      write "deployments.json" mixedRegistry mixedFile = .ok saved ∧
      Deployments.seeds saved = .ok later ∧
      (∀ entry ∈ mixedRegistry.entries,
        later.codeId? entry.name = entry.codeId ∧
          later.address? entry.name =
            if Text.blank entry.address then none else some entry.address) ∧
      ∀ name ∉ mixedRegistry.names,
        later.codeId? name = known.codeId? name ∧
          later.address? name = known.address? name := by
  have accepted : Deployments.seeds mixedFile =
      .ok ⟨[("pool", ⟨none, some 3⟩), ("vault", ⟨some "sei1vault", none⟩)]⟩ := by
    decide +kernel
  have distinct : mixedRegistry.names.Nodup := by decide
  have bothRead : ((base mixedFile).toOption.bind (merge? mixedRegistry)).all
      (fun merged => Json.ofText? merged.pretty == some merged) = true := by
    decide +kernel
  have readBack : ReadBack mixedRegistry mixedFile := by
    intro held merged isHeld isMerged
    rw [isHeld] at bothRead
    simpa [Except.toOption, isMerged] using bothRead
  cases written : write "deployments.json" mixedRegistry mixedFile with
  | error fault =>
      have canWrite :
          (write "deployments.json" mixedRegistry mixedFile).toOption.isSome = true := by
        decide +kernel
      rw [written] at canWrite
      cases canWrite
  | ok saved =>
      obtain ⟨later, read, said⟩ := seeds_of_write accepted distinct readBack written
      exact ⟨_, saved, later, accepted, distinct, readBack, rfl, read, said⟩

end Rollout.Deployments
