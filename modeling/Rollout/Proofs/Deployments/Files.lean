import Rollout.Proofs.Deployments.Recording

/-!
Contract: the deployments file before and after a registry is recorded in it.

Owns:
- that a file which seeds can be read from can be written exactly if it holds no array;
- what is on record in a file, and that a written file says so when it is read again.

Does not own: the runs that read and write the file.
-/

namespace Rollout.Deployments

variable {deployments members : List (String × Json)} {registry : Registry} {name : String}

/-! ## Files that seeds can be read from -/

/-- Seeds are read from an object, or from an array that stands for one. -/
private theorem object_or_array_of_recorded?
    {value : Json}
    (recorded : recorded? value = some deployments) :
    (∃ members, value = .object members) ∨ ∃ items, value = .array items := by
  cases value with
  | object members => exact .inl ⟨members, rfl⟩
  | array items => exact .inr ⟨items, rfl⟩
  | _ => cases recorded

theorem merge?_array (registry : Registry) (items : List Json) :
    merge? registry (.array items) = none :=
  rfl

private theorem recorded?_of_seedsOf?
    {value : Json}
    {seeds : Seeds}
    (read : seedsOf? value = some seeds) :
    ∃ deployments, recorded? value = some deployments ∧ Readable deployments := by
  obtain ⟨named, readNamed, _⟩ := Option.map_eq_some_iff.mp read
  obtain ⟨deployments, recorded, readable⟩ := Option.bind_eq_some_iff.mp readNamed
  exact ⟨deployments, recorded, exists_namedSeeds?_iff.mp ⟨named, readable⟩⟩

theorem recorded?_of_seeds
    {file : FileState}
    {known : Seeds}
    (present : file.isPresent = true)
    (accepted : Deployments.seeds file = .ok known) :
    ∃ held deployments, value file = .ok held ∧ recorded? held = some deployments ∧
      Readable deployments := by
  unfold Deployments.seeds at accepted
  rw [if_pos present] at accepted
  split at accepted
  · cases accepted
  · rename_i held isHeld
    split at accepted
    · rename_i seeds read
      obtain ⟨deployments, recorded, readable⟩ := recorded?_of_seedsOf? read
      exact ⟨held, deployments, isHeld, recorded, readable⟩
    · cases accepted

/-- Of the files that seeds can be read from, a registry can be recorded in all but those
that hold an array. An array is refused, whatever the registry. -/
theorem updated_of_seeds
    {file : FileState}
    {known : Seeds}
    (accepted : Deployments.seeds file = .ok known)
    (path : String)
    (registry : Registry) :
    ((∃ content, updated path registry file = .ok content) ↔
        ¬ ∃ items, value file = .ok (.array items)) ∧
      (updated path registry file = .error (.write (.noRecord path)) ↔
        ∃ items, value file = .ok (.array items)) := by
  unfold updated base
  by_cases present : file.isPresent
  · obtain ⟨held, deployments, isHeld, recorded, _⟩ := recorded?_of_seeds present accepted
    rw [if_pos present, isHeld]
    rcases object_or_array_of_recorded? recorded with ⟨members, rfl⟩ | ⟨items, rfl⟩
    · obtain ⟨merged, canMerge, _⟩ := merge?_object recorded registry
      simp [canMerge]
    · simp [merge?_array]
  · have nothing : ∀ held, value file ≠ .ok held := by
      cases file with
      | missing => exact nofun
      | unreachable fault => exact nofun
      | _ => exact absurd rfl present
    have recorded : recorded? (.object []) = some [] := rfl
    obtain ⟨merged, canMerge, _⟩ := merge?_object recorded registry
    rw [if_neg present]
    simp [canMerge, nothing]

theorem updated_of_seeds_of_emptyArray :
    let file := FileState.text "[]"
    Deployments.seeds file = .ok Seeds.empty ∧
      ((∃ content, updated "deployments.json" Registry.empty file = .ok content) ↔
        ¬ ∃ items, value file = .ok (.array items)) ∧
      (updated "deployments.json" Registry.empty file =
          .error (.write (.noRecord "deployments.json")) ↔
        ∃ items, value file = .ok (.array items)) := by
  have accepted : Deployments.seeds (.text "[]") = .ok Seeds.empty := by decide +kernel
  exact ⟨accepted, updated_of_seeds accepted "deployments.json" Registry.empty⟩

theorem write_array
    {file : FileState}
    {items : List Json}
    {path : String}
    (held : value file = .ok (.array items)) :
    write path registry file = .error (.write (.noRecord path)) := by
  have present : file.isPresent = true := by
    cases file with
    | missing => cases held
    | unreachable fault => cases held
    | _ => rfl
  have refused : updated path registry file = .error (.write (.noRecord path)) := by
    rw [updated, base, if_pos present, held]
    rfl
  rw [write, refused]

/-- Seeds are read from an empty array, but nothing can be recorded in it. -/
theorem emptyArray_read_but_not_written :
    Deployments.seeds (.text "[]") = .ok Seeds.empty ∧
      ∀ path registry, write path registry (.text "[]") = .error (.write (.noRecord path)) := by
  have held : value (.text "[]") = .ok (.array []) := by decide +kernel
  have accepted : Deployments.seeds (.text "[]") = .ok Seeds.empty := by decide +kernel
  exact ⟨accepted, fun path registry => write_array held⟩

/-! ## What is on record in a file -/

def record? (file : FileState) (name : String) : Option Json :=
  match value file with
  | .ok held => (held.member? memberName).bind fun deployments => deployments.member? name
  | .error _ => none

def address? (file : FileState) (name : String) : Option String :=
  ((record? file name).bind fun record => record.member? "address").bind Json.text?

/-- The numbers in a file are read back from what is written for them. -/
def NumbersReadBack (file : FileState) : Prop :=
  ∀ held number, value file = .ok held → held.HasNumber number → number.ReadsBack

theorem address?_of_record?
    {file : FileState}
    {entry : Entry}
    (recorded : record? file name = some (entryValue entry)) :
    address? file name = some entry.address := by
  have address : (entryValue entry).member? "address" = some (.string entry.address) := by
    rw [entryValue_eq]
    rfl
  rw [address?, recorded, Option.bind_some, address]
  rfl

/-- From a file in which readable deployments are on record, seeds are read, and they say
what is on record. -/
theorem exists_seeds_of_base
    {file : FileState}
    (held : base file = .ok (.object members))
    (recorded : recorded? (.object members) = some deployments)
    (readable : Readable deployments)
    (ordered : Json.Ordered deployments) :
    ∃ seeds, Deployments.seeds file = .ok seeds ∧
      ∀ name, seeds.seed name = (recordedSeed deployments name).normal := by
  unfold base at held
  unfold Deployments.seeds
  split at held
  · rename_i present
    obtain ⟨named, read⟩ := exists_namedSeeds?_iff.mpr readable
    have seeds : seedsOf? (.object members) = some (Seeds.empty.overlayAll named) := by
      rw [seedsOf?, recorded, Option.bind_some, read]
      rfl
    rw [if_pos present, held]
    simp only [seeds]
    exact ⟨_, rfl, fun name => seed_of_seedsOf? recorded ordered seeds⟩
  · rename_i absent
    cases held
    have nothing : deployments = [] := by
      rcases recorded?_object_iff.mp recorded with isHeld | ⟨_, nothing⟩
      · cases isHeld
      · exact nothing
    rw [if_neg absent, nothing]
    exact ⟨Seeds.empty, rfl, fun _ => rfl⟩

/-- A file holds an object in which deployments are on record that seeds can be read
from. What is saved in its place is read back. -/
structure Records
    (file : FileState)
    (members deployments : List (String × Json)) :
    Prop where
  base : Deployments.base file = .ok (.object members)
  recorded : recorded? (.object members) = some deployments
  readable : Readable deployments
  printable : (Json.object members).Printable Json.depthLimit
  savable : ∀ content, file.save content = .ok (.text content)

namespace Records

variable {file : FileState}

private theorem printable_deployments (records : Records file members deployments) :
    (Json.object deployments).Printable 126 := by
  rcases recorded?_object_iff.mp records.recorded with held | ⟨_, rfl⟩
  · have parts := Json.printable_object_iff.mp records.printable
    exact parts.2 _ (mem_of_lookup held)
  · exact Json.printable_object_iff.mpr ⟨.nil, nofun⟩

private theorem ordered_deployments (records : Records file members deployments) :
    Json.Ordered deployments :=
  (Json.printable_object_iff.mp records.printable_deployments).1

theorem record?_eq (records : Records file members deployments) :
    record? file name = deployments.lookup name := by
  have inObject : ((Json.object members).member? memberName).bind
      (fun deployments => deployments.member? name) = deployments.lookup name := by
    rcases recorded?_object_iff.mp records.recorded with held | ⟨absent, rfl⟩
    · rw [Json.member?, held]
      rfl
    · rw [Json.member?, absent]
      rfl
  have base := records.base
  unfold Deployments.base at base
  unfold record?
  split at base
  · rw [base]
    exact inObject
  · rename_i absent
    cases base
    rw [← inObject]
    cases file with
    | missing => rfl
    | unreachable fault => rfl
    | _ => exact absurd rfl absent

/-- The seeds of the file are those on record. -/
theorem exists_seeds (records : Records file members deployments) :
    ∃ seeds, Deployments.seeds file = .ok seeds ∧
      ∀ name, seeds.seed name = (recordedSeed deployments name).normal :=
  exists_seeds_of_base records.base records.recorded records.readable
    records.ordered_deployments

/-- A registry can be recorded in the file, and the file then has it on record. -/
theorem exists_write
    (records : Records file members deployments)
    (path : String)
    (registry : Registry) :
    ∃ saved merged, write path registry file = .ok saved ∧
      Records saved merged (withEntries registry.entries deployments) := by
  obtain ⟨merged, canMerge, recorded, keepsOrder, inMerged⟩ :=
    merge?_object records.recorded registry
  have content : updated path registry file = .ok (Json.object merged).pretty := by
    rw [updated, records.base]
    simp only [canMerge]
  have parts := Json.printable_object_iff.mp records.printable
  have deploymentParts := Json.printable_object_iff.mp records.printable_deployments
  have printableEntries :
      (Json.object (withEntries registry.entries deployments)).Printable 126 := by
    refine Json.printable_object_iff.mpr
      ⟨ordered_withEntries deploymentParts.1, fun member isMember => ?_⟩
    rcases mem_withEntries isMember with ⟨entry, _, rfl⟩ | earlier
    · exact printable_entryValue entry _
    · exact deploymentParts.2 member earlier
  have printable : (Json.object merged).Printable Json.depthLimit := by
    refine Json.printable_object_iff.mpr ⟨keepsOrder parts.1, fun member isMember => ?_⟩
    rcases inMerged member isMember with earlier | rfl
    · exact parts.2 member earlier
    · exact printableEntries
  refine ⟨.text (Json.object merged).pretty, merged, ?_, ?_, recorded,
    records.readable.withEntries, printable, fun _ => rfl⟩
  · rw [write, content]
    simp only [records.savable]
  · show value (.text (Json.object merged).pretty) = _
    rw [value, FileState.read]
    simp only [Json.ofText?_pretty printable]

end Records

/-- What is on record can be told of a file that seeds can be read from, if it is not
there or holds an object. -/
theorem exists_records
    {file : FileState}
    {known : Seeds}
    (start : file = .missing ∨
      ∃ content members, file = .text content ∧ Json.ofText? content = some (.object members))
    (accepted : Deployments.seeds file = .ok known)
    (numbers : NumbersReadBack file) :
    ∃ members deployments, Records file members deployments := by
  rcases start with rfl | ⟨content, members, rfl, read⟩
  · exact ⟨[], [], rfl, rfl, nofun, Json.printable_object_iff.mpr ⟨.nil, nofun⟩, fun _ => rfl⟩
  · have held : value (.text content) = .ok (.object members) := by
      rw [value, FileState.read]
      simp only [read]
    obtain ⟨_, deployments, sameHeld, recorded, readable⟩ := recorded?_of_seeds rfl accepted
    cases held.symm.trans sameHeld
    exact ⟨members, deployments, held, recorded, readable,
      ⟨Json.nested_of_ofText? read, fun number => numbers _ number held⟩, fun _ => rfl⟩

/-- A file that seeds can be read from and in which a registry could be recorded was not
there or holds an object. -/
theorem missing_or_object_of_write
    {file saved : FileState}
    {known : Seeds}
    {path : String}
    (accepted : Deployments.seeds file = .ok known)
    (written : write path registry file = .ok saved) :
    file = .missing ∨
      ∃ content members, file = .text content ∧
        Json.ofText? content = some (.object members) := by
  cases file with
  | missing => exact .inl rfl
  | unreachable fault =>
      unfold write at written
      split at written <;> cases written
  | foreign content => cases accepted
  | blocked fault => cases accepted
  | text content =>
      obtain ⟨held, deployments, isHeld, recorded, _⟩ := recorded?_of_seeds rfl accepted
      rcases object_or_array_of_recorded? recorded with ⟨members, rfl⟩ | ⟨items, rfl⟩
      · refine .inr ⟨content, members, rfl, ?_⟩
        unfold value FileState.read at isHeld
        simp only at isHeld
        split at isHeld
        · rename_i read
          cases isHeld
          exact read
        · cases isHeld
      · cases written.symm.trans (write_array isHeld)

end Rollout.Deployments
