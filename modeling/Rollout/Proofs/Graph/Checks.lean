import Mathlib.Data.List.Basic
import Mathlib.Data.List.Nodup
import Rollout.Graph
import Rollout.Proofs.References

/-!
Contract: what the checks of a list of descriptors find.

Owns:
- the first name that is repeated;
- sound descriptors, whose texts are well formed and whose references are declared,
  and the fault of an unsound one;
- the needs of a list of sound descriptors, and the fault of any other list as that
  of its first unsound descriptor.

Does not own: the order of descriptors.
-/

namespace Rollout.Graph

variable {names : List String} {descriptor : Descriptor} {descriptors : List Descriptor}
  {fault : GraphFault}

/-! ## Repeated names -/

/-- A name of a list that stands before it already, where no name stood before it
twice. -/
def IsFirstRepeated
    (names : List String)
    (name : String) :
    Prop :=
  ∃ before after, names = before ++ name :: after ∧ before.Nodup ∧ name ∈ before

theorem firstRepeated?_eq_some_iff
    {met : List String}
    {name : String} :
    firstRepeated? met names = some name ↔
      ∃ before after, names = before ++ name :: after ∧ before.Nodup ∧
        (∀ earlier ∈ before, earlier ∉ met) ∧ (name ∈ met ∨ name ∈ before) := by
  induction names generalizing met with
  | nil => simp [firstRepeated?]
  | cons first rest inductionHypothesis =>
      by_cases known : first ∈ met
      · rw [firstRepeated?, if_pos known]
        constructor
        · intro same
          obtain rfl := Option.some.inj same
          exact ⟨[], rest, rfl, List.nodup_nil, by simp, Or.inl known⟩
        · intro repeatedAt
          obtain ⟨before, after, split, _, fresh, _⟩ := repeatedAt
          cases before with
          | nil => exact congrArg some (List.cons.inj split).1
          | cons other before =>
              obtain ⟨rfl, _⟩ := List.cons.inj split
              exact absurd known (fresh first (by simp))
      · rw [firstRepeated?, if_neg known, inductionHypothesis]
        -- The head is among the names met in the rest, and in front of them in the whole.
        constructor
        · intro repeatedLater
          obtain ⟨before, after, rfl, distinct, fresh, repeated⟩ := repeatedLater
          have firstFresh : first ∉ before :=
            fun member => fresh first member (by simp)
          refine ⟨first :: before, after, rfl, distinct.cons firstFresh, ?_, ?_⟩
          · refine List.forall_mem_cons.mpr ⟨known, fun earlier member => ?_⟩
            exact fun inMet => fresh earlier member (List.mem_cons_of_mem first inMet)
          · simpa [or_assoc, or_left_comm] using repeated
        · intro repeatedAt
          obtain ⟨before, after, split, distinct, fresh, repeated⟩ := repeatedAt
          cases before with
          | nil =>
              obtain ⟨rfl, _⟩ := List.cons.inj split
              simp [known] at repeated
          | cons other before =>
              obtain ⟨rfl, rfl⟩ := List.cons.inj split
              obtain ⟨firstFresh, restDistinct⟩ := List.nodup_cons.mp distinct
              refine ⟨before, after, rfl, restDistinct, fun earlier member => ?_, ?_⟩
              · refine List.not_mem_cons_of_ne_of_not_mem ?_
                  (fresh earlier (List.mem_cons_of_mem first member))
                exact fun same => firstFresh (same ▸ member)
              · simpa [or_assoc, or_left_comm] using repeated

theorem firstRepeated?_eq_none_iff {met : List String} :
    firstRepeated? met names = none ↔ names.Nodup ∧ ∀ name ∈ names, name ∉ met := by
  induction names generalizing met with
  | nil => simp [firstRepeated?]
  | cons first rest inductionHypothesis =>
      by_cases known : first ∈ met
      · simp [firstRepeated?, known]
      · rw [firstRepeated?, if_neg known, inductionHypothesis, List.nodup_cons,
          List.forall_mem_cons]
        constructor
        · intro freshRest
          obtain ⟨distinct, fresh⟩ := freshRest
          refine ⟨⟨fun member => fresh first member (by simp), distinct⟩, known, ?_⟩
          exact fun name member inMet => fresh name member (List.mem_cons_of_mem first inMet)
        · intro freshAll
          obtain ⟨⟨firstFresh, distinct⟩, _, fresh⟩ := freshAll
          refine ⟨distinct, fun name member => ?_⟩
          refine List.not_mem_cons_of_ne_of_not_mem ?_ (fresh name member)
          exact fun same => firstFresh (same ▸ member)

/-! ## One descriptor -/

/-- A descriptor whose texts are well formed and which names only declared resources. -/
def Sound
    (names : List String)
    (descriptor : Descriptor) :
    Prop :=
  descriptor.WellFormed ∧ ∀ name ∈ descriptor.references, name ∈ names

/-- The fault of an unsound descriptor. A malformed text counts before an undeclared
reference. -/
inductive DescriptorFault (names : List String) (descriptor : Descriptor) :
    GraphFault → Prop where
  /-- The first malformed text. -/
  | malformed {text : String} {fault : TemplateFault}
      (first : IsFirst (fun text => ¬ Template.WellFormed text) descriptor.texts text)
      (read : Template.pieces text = .error fault) :
      DescriptorFault names descriptor (.invalidTemplate descriptor.name fault)
  /-- The first undeclared reference. -/
  | undeclared {reference : String}
      (wellFormed : descriptor.WellFormed)
      (first : IsFirst (fun name => name ∉ names) descriptor.references reference) :
      DescriptorFault names descriptor (.dangling descriptor.name reference)

def neededPlaces
    (names : List String)
    (descriptor : Descriptor) :
    List Nat :=
  (Descriptor.newNames [] descriptor.references).map names.idxOf

private theorem idxOf?_of_mem
    {name : String}
    (declared : name ∈ names) :
    names.idxOf? name = some (names.idxOf name) := by
  have found : (names.idxOf? name).isSome := List.isSome_idxOf?.mpr declared
  obtain ⟨place, atPlace⟩ := Option.isSome_iff_exists.mp found
  rw [atPlace, List.idxOf_eq_getD_idxOf?, atPlace, Option.getD_some]

private theorem placesOf_of_declared
    {resource : String}
    {dependencies : List String}
    (declared : ∀ name ∈ dependencies, name ∈ names) :
    placesOf names resource dependencies = .ok (dependencies.map names.idxOf) := by
  induction dependencies with
  | nil => rfl
  | cons first rest inductionHypothesis =>
      obtain ⟨firstDeclared, restDeclared⟩ := List.forall_mem_cons.mp declared
      simp only [placesOf, idxOf?_of_mem firstDeclared, inductionHypothesis restDeclared,
        List.map_cons]

private theorem placesOf_eq_error_iff
    {resource : String}
    {dependencies : List String} :
    placesOf names resource dependencies = .error fault ↔
      ∃ reference, IsFirst (fun name => name ∉ names) dependencies reference ∧
        fault = .dangling resource reference := by
  induction dependencies with
  | nil => simp [placesOf]
  | cons first rest inductionHypothesis =>
      by_cases declared : first ∈ names
      · simp only [isFirst_cons, declared, not_true_eq_false, false_and, not_false_eq_true,
          true_and, false_or, ← inductionHypothesis, placesOf, idxOf?_of_mem declared]
        cases placesOf names resource rest <;> simp
      · have missing : names.idxOf? first = none := List.idxOf?_eq_none_iff.mpr declared
        simp [isFirst_cons, declared, placesOf, missing, eq_comm]

private theorem needsOf_of_sound (sound : Sound names descriptor) :
    needsOf names descriptor = .ok (neededPlaces names descriptor) := by
  obtain ⟨wellFormed, declared⟩ := sound
  have allDeclared : ∀ name ∈ Descriptor.newNames [] descriptor.references, name ∈ names :=
    fun name member => declared name (Descriptor.mem_newNames.mp member).1
  simp only [needsOf, Descriptor.dependencies_of_wellFormed wellFormed,
    placesOf_of_declared allDeclared, neededPlaces]

private theorem needsOf_eq_error_iff :
    needsOf names descriptor = .error fault ↔ DescriptorFault names descriptor fault := by
  by_cases wellFormed : descriptor.WellFormed
  · have needs : needsOf names descriptor = placesOf names descriptor.name
        (Descriptor.newNames [] descriptor.references) := by
      simp only [needsOf, Descriptor.dependencies_of_wellFormed wellFormed]
    rw [needs, placesOf_eq_error_iff]
    simp only [Descriptor.isFirst_newNames (List.forall_mem_nil _)]
    constructor
    · intro undeclared
      obtain ⟨reference, first, rfl⟩ := undeclared
      exact .undeclared wellFormed first
    · intro descriptorFault
      cases descriptorFault with
      | malformed first _ => exact absurd (wellFormed _ first.mem) first.holds_item
      | undeclared _ first => exact ⟨_, first, rfl⟩
  · obtain ⟨text, malformed, first, read⟩ := Descriptor.exists_first_malformed wellFormed
    have failed := Descriptor.dependencies_eq_error_iff.mpr ⟨text, first, read⟩
    simp only [needsOf, failed, Except.error.injEq]
    constructor
    · intro same
      obtain rfl := same
      exact .malformed first read
    · intro descriptorFault
      cases descriptorFault with
      | malformed otherFirst otherRead =>
          have otherFailed :=
            Descriptor.dependencies_eq_error_iff.mpr ⟨_, otherFirst, otherRead⟩
          rw [failed] at otherFailed
          rw [Except.error.inj otherFailed]
      | undeclared otherWellFormed _ => exact absurd otherWellFormed wellFormed

/-- A descriptor is unsound exactly if it has a fault. -/
theorem not_sound_iff :
    ¬ Sound names descriptor ↔ ∃ fault, DescriptorFault names descriptor fault := by
  constructor
  · intro unsound
    by_cases wellFormed : descriptor.WellFormed
    · have notAllDeclared : ¬ ∀ name ∈ descriptor.references, name ∈ names :=
        fun declared => unsound ⟨wellFormed, declared⟩
      obtain ⟨reference, first⟩ := exists_isFirst_not notAllDeclared
      exact ⟨_, .undeclared wellFormed first⟩
    · obtain ⟨text, malformed, first, read⟩ := Descriptor.exists_first_malformed wellFormed
      exact ⟨_, .malformed first read⟩
  · rintro ⟨fault, descriptorFault⟩ sound
    have failed := needsOf_eq_error_iff.mpr descriptorFault
    rw [needsOf_of_sound sound] at failed
    cases failed

/-! ## All descriptors -/

theorem allNeeds_of_sound (sound : ∀ descriptor ∈ descriptors, Sound names descriptor) :
    allNeeds names descriptors = .ok (descriptors.map (neededPlaces names)) := by
  induction descriptors with
  | nil => rfl
  | cons first rest inductionHypothesis =>
      obtain ⟨firstSound, restSound⟩ := List.forall_mem_cons.mp sound
      simp only [allNeeds, needsOf_of_sound firstSound, inductionHypothesis restSound,
        List.map_cons]

/-- The fault of a list of descriptors is that of the first unsound one. -/
theorem allNeeds_eq_error_iff :
    allNeeds names descriptors = .error fault ↔
      ∃ descriptor, IsFirst (fun descriptor => ¬ Sound names descriptor) descriptors descriptor ∧
        DescriptorFault names descriptor fault := by
  induction descriptors with
  | nil => simp [allNeeds]
  | cons first rest inductionHypothesis =>
      by_cases sound : Sound names first
      · simp only [isFirst_cons, sound, not_true_eq_false, false_and, not_false_eq_true,
          true_and, false_or, ← inductionHypothesis, allNeeds, needsOf_of_sound sound]
        cases allNeeds names rest <;> simp
      · obtain ⟨firstFault, faultHolds⟩ := not_sound_iff.mp sound
        have failed := needsOf_eq_error_iff.mpr faultHolds
        simp only [isFirst_cons, sound, not_false_eq_true, true_and, not_true_eq_false,
          false_and, or_false, exists_eq_left, ← needsOf_eq_error_iff, allNeeds, failed,
          Except.error.injEq]

end Rollout.Graph
