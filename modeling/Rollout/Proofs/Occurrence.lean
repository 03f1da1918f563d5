/-!
Contract: the first item of a list that has a property.

Owns: what it means to be that item, and how it is found from the parts of a list.

Does not own: any particular property.
-/

namespace Rollout

variable {α : Type} {holds : α → Prop} {item : α}

/-- An item of a list that has a property that no item before it has. -/
def IsFirst
    (holds : α → Prop)
    (items : List α)
    (item : α) :
    Prop :=
  ∃ before after,
    items = before ++ item :: after ∧ (∀ earlier ∈ before, ¬ holds earlier) ∧ holds item

namespace IsFirst

theorem holds_item
    {items : List α}
    (first : IsFirst holds items item) :
    holds item := by
  obtain ⟨_, _, _, _, found⟩ := first
  exact found

theorem mem
    {items : List α}
    (first : IsFirst holds items item) :
    item ∈ items := by
  obtain ⟨before, after, split, _, _⟩ := first
  simp [split]

end IsFirst

@[simp] theorem not_isFirst_nil : ¬ IsFirst holds [] item := by
  intro first
  obtain ⟨before, after, split, _⟩ := first
  simp at split

/-- The first item of a list comes first if it has the property; otherwise the
rest of the list decides. -/
theorem isFirst_cons
    {head : α}
    {rest : List α} :
    IsFirst holds (head :: rest) item ↔
      (holds head ∧ item = head) ∨ (¬ holds head ∧ IsFirst holds rest item) := by
  constructor
  · intro first
    obtain ⟨before, after, split, earlier, found⟩ := first
    cases before with
    | nil =>
        obtain ⟨rfl, rfl⟩ := List.cons.inj split
        exact Or.inl ⟨found, rfl⟩
    | cons other before =>
        obtain ⟨rfl, rfl⟩ := List.cons.inj split
        refine Or.inr ⟨earlier head (by simp), before, after, rfl, ?_, found⟩
        exact fun candidate member => earlier candidate (List.mem_cons_of_mem head member)
  · rintro (⟨found, rfl⟩ | ⟨passed, before, after, rfl, earlier, found⟩)
    · exact ⟨[], rest, rfl, by simp, found⟩
    · refine ⟨head :: before, after, rfl, ?_, found⟩
      intro candidate member
      rcases List.mem_cons.mp member with rfl | later
      · exact passed
      · exact earlier candidate later

/-- The second of two lists counts only if the first has no item with the property. -/
theorem isFirst_append
    {left right : List α} :
    IsFirst holds (left ++ right) item ↔
      IsFirst holds left item ∨
        ((∀ earlier ∈ left, ¬ holds earlier) ∧ IsFirst holds right item) := by
  induction left with
  | nil => simp
  | cons head rest inductionHypothesis =>
      rw [List.cons_append, isFirst_cons, isFirst_cons, inductionHypothesis]
      by_cases found : holds head <;> simp [found]

/-- If any item has the property, then there is a first one. -/
theorem exists_isFirst
    {items : List α}
    (member : item ∈ items)
    (found : holds item) :
    ∃ first, IsFirst holds items first := by
  induction items with
  | nil => simp at member
  | cons head rest inductionHypothesis =>
      by_cases atHead : holds head
      · exact ⟨head, isFirst_cons.mpr (Or.inl ⟨atHead, rfl⟩)⟩
      · have inRest : item ∈ rest := by
          rcases List.mem_cons.mp member with rfl | later
          · exact absurd found atHead
          · exact later
        obtain ⟨first, isFirst⟩ := inductionHypothesis inRest
        exact ⟨first, isFirst_cons.mpr (Or.inr ⟨atHead, isFirst⟩)⟩

/-- If not all items are as they should be, then there is a first one that is not. -/
theorem exists_isFirst_not
    {asItShould : α → Prop}
    {items : List α}
    (notAll : ¬ ∀ item ∈ items, asItShould item) :
    ∃ first, IsFirst (fun item => ¬ asItShould item) items first := by
  obtain ⟨item, itemFails⟩ := Classical.not_forall.mp notAll
  obtain ⟨member, fails⟩ := Classical.not_imp.mp itemFails
  exact exists_isFirst member fails

end Rollout
