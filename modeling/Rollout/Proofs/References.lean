import Mathlib.Data.List.Basic
import Rollout.Descriptor
import Rollout.Proofs.Template.Leaves

/-!
Contract: the resources that a descriptor names.

Owns:
- the texts of a descriptor, its placeholders and the names in them, in order and
  with repetitions;
- the dependencies of a well-formed descriptor as the names in it, each once;
- the fault of any other descriptor as that of its first malformed text.

Does not own: whether a name is declared.
-/

namespace Rollout.Descriptor

/-- The texts of a descriptor that may have slots: the strings of its template, then
its funds. -/
def texts (descriptor : Descriptor) : List String :=
  descriptor.template.leaves ++ descriptor.funds.toList

def WellFormed (descriptor : Descriptor) : Prop :=
  ∀ text ∈ descriptor.texts, Template.WellFormed text

def slots (descriptor : Descriptor) : List Placeholder :=
  descriptor.texts.flatMap Template.slots

/-- The resources that a descriptor names, in order: the source of its code, then
those in its slots. -/
def references (descriptor : Descriptor) : List String :=
  descriptor.source ++ descriptor.slots.filterMap Placeholder.resource?

/-- A descriptor that is not well formed has a first malformed text. -/
theorem exists_first_malformed
    {descriptor : Descriptor}
    (malformed : ¬ descriptor.WellFormed) :
    ∃ text fault, IsFirst (fun text => ¬ Template.WellFormed text) descriptor.texts text ∧
      Template.pieces text = .error fault := by
  obtain ⟨text, first⟩ := exists_isFirst_not malformed
  obtain ⟨fault, read⟩ := Template.exists_fault_of_not_wellFormed first.holds_item
  exact ⟨text, fault, first, read⟩

theorem mem_references_of_reuse
    {descriptor : Descriptor}
    {source : String}
    (borrowed : descriptor.artifact = .reuse source) :
    source ∈ descriptor.references := by
  simp [references, Descriptor.source, borrowed]

theorem mem_references_of_slot
    {descriptor : Descriptor}
    {placeholder : Placeholder}
    {name : String}
    (member : placeholder ∈ descriptor.slots)
    (refers : placeholder.resource? = some name) :
    name ∈ descriptor.references :=
  List.mem_append_right _ (List.mem_filterMap.mpr ⟨placeholder, member, refers⟩)

theorem mem_slots_of_text
    {descriptor : Descriptor}
    {text : String}
    {placeholder : Placeholder}
    (inTexts : text ∈ descriptor.texts)
    (inText : placeholder ∈ Template.slots text) :
    placeholder ∈ descriptor.slots :=
  List.mem_flatMap.mpr ⟨text, inTexts, inText⟩

/-! ## Names without repetitions -/

theorem mem_newNames
    {met names : List String}
    {name : String} :
    name ∈ newNames met names ↔ name ∈ names ∧ name ∉ met := by
  induction names generalizing met with
  | nil => simp [newNames]
  | cons first rest inductionHypothesis =>
      by_cases known : first ∈ met
      · rw [newNames, if_pos known, inductionHypothesis]
        constructor
        · exact fun ⟨member, fresh⟩ => ⟨List.mem_cons_of_mem first member, fresh⟩
        · intro inRest
          obtain ⟨member, fresh⟩ := inRest
          rcases List.mem_cons.mp member with rfl | later
          · exact absurd known fresh
          · exact ⟨later, fresh⟩
      · rw [newNames, if_neg known, List.mem_cons, inductionHypothesis, List.mem_cons,
          List.mem_cons]
        by_cases same : name = first
        · subst same
          simp [known]
        · simp [same]

theorem nodup_newNames (met names : List String) : (newNames met names).Nodup := by
  induction names generalizing met with
  | nil => simp [newNames]
  | cons first rest inductionHypothesis =>
      by_cases known : first ∈ met
      · rw [newNames, if_pos known]
        exact inductionHypothesis met
      · rw [newNames, if_neg known, List.nodup_cons, mem_newNames]
        exact ⟨fun member => member.2 (by simp), inductionHypothesis (first :: met)⟩

/-- Names without repetitions stand in the order in which they are met first. -/
theorem newNames_pairwise_idxOf (met names : List String) :
    (newNames met names).Pairwise fun name later => names.idxOf name < names.idxOf later := by
  induction names generalizing met with
  | nil => exact .nil
  | cons first rest inductionHypothesis =>
      -- In front of the rest, every other name stands one place further on.
      have shifted : ∀ tail : List String, first ∉ tail →
          (tail.Pairwise fun name later => rest.idxOf name < rest.idxOf later) →
          tail.Pairwise fun name later =>
            (first :: rest).idxOf name < (first :: rest).idxOf later := by
        intro tail fresh inOrder
        refine inOrder.imp_of_mem fun {name later} member laterMember before => ?_
        have different : name ≠ first := fun same => fresh (same ▸ member)
        have laterDifferent : later ≠ first := fun same => fresh (same ▸ laterMember)
        rw [List.idxOf_cons_ne rest different.symm, List.idxOf_cons_ne rest laterDifferent.symm]
        exact Nat.succ_lt_succ before
      by_cases known : first ∈ met
      · rw [newNames, if_pos known]
        have fresh : first ∉ newNames met rest := fun member => (mem_newNames.mp member).2 known
        exact shifted _ fresh (inductionHypothesis met)
      · rw [newNames, if_neg known]
        have fresh : first ∉ newNames (first :: met) rest :=
          fun member => (mem_newNames.mp member).2 List.mem_cons_self
        refine .cons ?_ (shifted _ fresh (inductionHypothesis (first :: met)))
        intro later member
        have different : later ≠ first := fun same => fresh (same ▸ member)
        rw [List.idxOf_cons_self, List.idxOf_cons_ne rest different.symm]
        exact Nat.succ_pos _

/-- Leaving out repetitions does not change the first name with a property, if no
name met before has it. -/
theorem isFirst_newNames
    {holds : String → Prop}
    {met names : List String}
    (metFails : ∀ name ∈ met, ¬ holds name)
    {name : String} :
    IsFirst holds (newNames met names) name ↔ IsFirst holds names name := by
  induction names generalizing met with
  | nil => simp [newNames]
  | cons first rest inductionHypothesis =>
      by_cases known : first ∈ met
      · rw [newNames, if_pos known, inductionHypothesis metFails, isFirst_cons]
        simp [metFails first known]
      · rw [newNames, if_neg known, isFirst_cons, isFirst_cons]
        by_cases found : holds first
        · simp [found]
        · have allFail : ∀ name ∈ first :: met, ¬ holds name :=
            List.forall_mem_cons.mpr ⟨found, metFails⟩
          simp [found, inductionHypothesis allFail]

/-! ## Dependencies -/

private theorem placeholders_eq (descriptor : Descriptor) :
    descriptor.placeholders = Template.placeholdersOfTexts descriptor.texts := by
  unfold placeholders texts
  rw [Template.placeholdersOfTexts_append, Template.placeholders_eq]
  cases descriptor.funds with
  | none => rfl
  | some funds =>
      simp only [Option.toList, Template.placeholdersOfTexts, Template.join_nil_right]

/-- A well-formed descriptor depends on the resources that it names. -/
theorem dependencies_of_wellFormed
    {descriptor : Descriptor}
    (wellFormed : descriptor.WellFormed) :
    descriptor.dependencies = .ok (newNames [] descriptor.references) := by
  have found := Template.placeholdersOfTexts_of_wellFormed wellFormed
  simp only [dependencies, placeholders_eq, found, references, slots]

/-- The dependencies of a descriptor have the fault of its first malformed text. -/
theorem dependencies_eq_error_iff
    {descriptor : Descriptor}
    {fault : TemplateFault} :
    descriptor.dependencies = .error fault ↔
      ∃ text, IsFirst (fun text => ¬ Template.WellFormed text) descriptor.texts text ∧
        Template.pieces text = .error fault := by
  rw [← Template.placeholdersOfTexts_eq_error_iff, ← placeholders_eq]
  unfold dependencies
  cases descriptor.placeholders <;> simp

/-- The dependencies of a descriptor can be listed exactly if it is well formed. -/
theorem dependencies_eq_ok_iff
    {descriptor : Descriptor}
    {names : List String} :
    descriptor.dependencies = .ok names ↔
      descriptor.WellFormed ∧ names = newNames [] descriptor.references := by
  constructor
  · intro listed
    have wellFormed : descriptor.WellFormed := by
      by_contra malformed
      rcases exists_first_malformed malformed with ⟨text, fault, first, read⟩
      have failed := dependencies_eq_error_iff.mpr ⟨text, first, read⟩
      rw [listed] at failed
      cases failed
    rw [dependencies_of_wellFormed wellFormed] at listed
    exact ⟨wellFormed, (Except.ok.inj listed).symm⟩
  · rintro ⟨wellFormed, rfl⟩
    exact dependencies_of_wellFormed wellFormed

end Rollout.Descriptor
