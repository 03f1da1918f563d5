import Mathlib.Data.List.Sort
import Rollout.Proofs.Sorting.Order

/-!
Contract: what a sorting keeps true from its start to its end.

Owns:
- the consistent states: the counts are those of the open needs, the ready items are
  the free ones in increasing order, and the placed items form a legal order;
- that the start is consistent and every step keeps it so;
- that a finished sorting has no free item left.

Does not own: whether all items are placed.
-/

namespace Rollout.Sorting

variable {needs : List (List Nat)} {sorting next : Sorting}

/-! ## Places with a property -/

def placesWhere
    {α : Type}
    (holds : α → Prop)
    [DecidablePred holds]
    (items : List α) :
    List Nat :=
  items.zipIdx.filterMap fun entry => if holds entry.1 then some entry.2 else none

theorem mem_placesWhere
    {α : Type}
    {holds : α → Prop}
    [DecidablePred holds]
    {items : List α}
    {place : Nat} :
    place ∈ placesWhere holds items ↔ ∃ item, items[place]? = some item ∧ holds item := by
  unfold placesWhere
  simp only [List.mem_filterMap, Prod.exists, List.mem_zipIdx_iff_getElem?]
  constructor
  · intro selectedItem
    obtain ⟨item, found, listed, selected⟩ := selectedItem
    by_cases holdsItem : holds item
    · rw [if_pos holdsItem] at selected
      obtain rfl := Option.some.inj selected
      exact ⟨item, listed, holdsItem⟩
    · rw [if_neg holdsItem] at selected
      cases selected
  · intro itemAtPlace
    obtain ⟨item, listed, holdsItem⟩ := itemAtPlace
    exact ⟨item, place, listed, if_pos holdsItem⟩

theorem placesWhere_increasing
    {α : Type}
    (holds : α → Prop)
    [DecidablePred holds]
    (items : List α) :
    (placesWhere holds items).Pairwise (· < ·) := by
  have placesIncreasing : items.zipIdx.Pairwise fun left right => left.2 < right.2 := by
    rw [← List.pairwise_map, List.zipIdx_map_snd]
    exact List.pairwise_lt_range'
  refine List.Pairwise.filterMap _ ?_ placesIncreasing
  intro left right increasing leftPlace leftSelected rightPlace rightSelected
  split at leftSelected <;> cases leftSelected
  split at rightSelected <;> cases rightSelected
  exact increasing

/-! ## Ready items -/

private theorem insertItem_eq (item : Nat) (items : List Nat) :
    insertItem item items = items.orderedInsert (· ≤ ·) item := by
  induction items with
  | nil => rfl
  | cons first rest inductionHypothesis =>
      simp only [insertItem, List.orderedInsert_cons, inductionHypothesis]

theorem foldr_insertItem_perm (items ready : List Nat) :
    (items.foldr insertItem ready).Perm (items ++ ready) := by
  induction items with
  | nil => exact List.Perm.refl ready
  | cons first rest inductionHypothesis =>
      rw [List.foldr_cons, insertItem_eq]
      exact (List.perm_orderedInsert _ first _).trans (inductionHypothesis.cons first)

theorem foldr_insertItem_sorted
    {items ready : List Nat}
    (sorted : ready.Pairwise (· ≤ ·)) :
    (items.foldr insertItem ready).Pairwise (· ≤ ·) := by
  induction items with
  | nil => exact sorted
  | cons first rest inductionHypothesis =>
      rw [List.foldr_cons, insertItem_eq]
      exact inductionHypothesis.orderedInsert first _

/-- Distinct items that are put among others that are increasing stand in increasing
order with them. -/
private theorem foldr_insertItem_increasing
    {items ready : List Nat}
    (itemsIncreasing : items.Pairwise (· < ·))
    (readyIncreasing : ready.Pairwise (· < ·))
    (disjoint : ∀ item ∈ items, item ∉ ready) :
    (items.foldr insertItem ready).Pairwise (· < ·) := by
  have sorted : (items.foldr insertItem ready).Pairwise (· ≤ ·) :=
    foldr_insertItem_sorted (readyIncreasing.imp Nat.le_of_lt)
  have distinct : (items.foldr insertItem ready).Nodup := by
    refine (foldr_insertItem_perm items ready).nodup_iff.mpr (List.nodup_append'.mpr ?_)
    exact ⟨itemsIncreasing.imp Nat.ne_of_lt, readyIncreasing.imp Nat.ne_of_lt, disjoint⟩
  exact (sorted.and distinct).imp fun ⟨below, different⟩ => Nat.lt_of_le_of_ne below different

/-! ## Open needs -/

/-- How many of the needed items are not placed. -/
def openNeeds (placed needed : List Nat) : Nat :=
  needed.countP fun other => other ∉ placed

theorem openNeeds_eq_zero_iff {placed needed : List Nat} :
    openNeeds placed needed = 0 ↔ ∀ other ∈ needed, other ∈ placed := by
  simp [openNeeds, List.countP_eq_zero]

/-- Placing an item closes the one need of it, where there is one. -/
theorem openNeeds_eq_snoc_add
    {placed needed : List Nat}
    {item : Nat}
    (distinct : needed.Nodup)
    (notPlaced : item ∉ placed) :
    openNeeds placed needed =
      openNeeds (placed ++ [item]) needed + if item ∈ needed then 1 else 0 := by
  unfold openNeeds
  induction needed with
  | nil => simp
  | cons first rest inductionHypothesis =>
      obtain ⟨firstFresh, restDistinct⟩ := List.nodup_cons.mp distinct
      have restCount := inductionHypothesis restDistinct
      rw [List.countP_cons, List.countP_cons, restCount]
      by_cases same : first = item
      · subst same
        simp [firstFresh, notPlaced]
      · by_cases firstPlaced : first ∈ placed
        · simp [same, Ne.symm same, firstPlaced]
        · simp [same, Ne.symm same, firstPlaced]
          omega

/-! ## Consistent states -/

def Distinct (needs : List (List Nat)) : Prop :=
  ∀ needed ∈ needs, needed.Nodup

/-- A state in which the counts and the ready items are those of the placed ones. -/
structure Consistent (needs : List (List Nat)) (sorting : Sorting) : Prop where
  /-- Each count is the number of needs that are not placed. -/
  waiting_eq : sorting.waiting = needs.map (openNeeds sorting.placed)
  ready_increasing : sorting.ready.Pairwise (· < ·)
  /-- Exactly the free items are ready. -/
  mem_ready : ∀ item, item ∈ sorting.ready ↔ Free needs sorting.placed item
  legal : Legal needs sorting.placed

theorem waiting_getElem?_eq_zero_iff
    {placed : List Nat}
    {item : Nat} :
    (needs.map (openNeeds placed))[item]? = some 0 ↔
      ∃ needed, needs[item]? = some needed ∧ ∀ other ∈ needed, other ∈ placed := by
  simp only [List.getElem?_map, Option.map_eq_some_iff, openNeeds_eq_zero_iff]

theorem itemsAtZero_eq (counts : List Nat) :
    itemsAtZero counts = placesWhere (fun count => count = 0) counts :=
  rfl

theorem start_consistent (needs : List (List Nat)) : Consistent needs (start needs) := by
  have waiting : needs.map List.length = needs.map (openNeeds []) := by
    refine List.map_congr_left fun needed _ => ?_
    simp [openNeeds]
  constructor
  · exact waiting
  · exact placesWhere_increasing (fun count => count = 0) _
  · intro item
    simp only [start, itemsAtZero_eq, waiting, mem_placesWhere, exists_eq_right,
      waiting_getElem?_eq_zero_iff, Free, List.not_mem_nil, not_false_eq_true, true_and]
  · exact legal_nil

/-! ## One step -/

/-- A step places the least ready item. -/
theorem step?_eq_some_iff :
    sorting.step? needs = some next ↔
      ∃ item rest, sorting.ready = item :: rest ∧
        next =
          ⟨waitingAfter needs item sorting.waiting,
            (freedBy needs item (waitingAfter needs item sorting.waiting)).foldr
              insertItem rest,
            sorting.placed ++ [item]⟩ := by
  unfold step?
  cases ready : sorting.ready with
  | nil => simp
  | cons item rest => simp [eq_comm]

theorem step?_eq_none_iff : sorting.step? needs = none ↔ sorting.ready = [] := by
  unfold step?
  cases sorting.ready <;> simp

/-- The counts after an item is placed are again those of the open needs. -/
theorem waitingAfter_eq
    {placed : List Nat}
    {item : Nat}
    (distinct : Distinct needs)
    (notPlaced : item ∉ placed) :
    waitingAfter needs item (needs.map (openNeeds placed)) =
      needs.map (openNeeds (placed ++ [item])) := by
  unfold waitingAfter
  rw [List.zipWith_map_right, List.zipWith_self]
  refine List.map_congr_left fun needed member => ?_
  rw [openNeeds_eq_snoc_add (distinct needed member) notPlaced]
  by_cases needsItem : item ∈ needed <;> simp [needsItem]

theorem freedBy_eq
    (needs : List (List Nat))
    (item : Nat)
    (waiting : List Nat) :
    freedBy needs item waiting =
      placesWhere (fun entry : List Nat × Nat => item ∈ entry.1 ∧ entry.2 = 0)
        (needs.zip waiting) :=
  rfl

/-- Placing an item frees the items that need it and wait for nothing else. -/
theorem mem_freedBy
    {placed : List Nat}
    {item freed : Nat} :
    freed ∈ freedBy needs item (needs.map (openNeeds placed)) ↔
      ∃ needed, needs[freed]? = some needed ∧ item ∈ needed ∧
        ∀ other ∈ needed, other ∈ placed := by
  rw [freedBy_eq, mem_placesWhere]
  simp only [Prod.exists, List.getElem?_zip_eq_some, List.getElem?_map]
  constructor
  · intro freedItem
    obtain ⟨needed, count, ⟨listed, counted⟩, needsItem, none⟩ := freedItem
    rw [listed, none] at counted
    exact ⟨needed, listed, needsItem, openNeeds_eq_zero_iff.mp (Option.some.inj counted)⟩
  · intro closedItem
    obtain ⟨needed, listed, needsItem, allPlaced⟩ := closedItem
    refine ⟨needed, openNeeds placed needed, ⟨listed, ?_⟩, needsItem, ?_⟩
    · rw [listed, Option.map_some]
    · exact openNeeds_eq_zero_iff.mpr allPlaced

/-- An item is free after one more is placed if it was free before or is freed by it. -/
private theorem free_snoc_iff
    {placed : List Nat}
    {item candidate : Nat}
    (legal : Legal needs placed)
    (free : Free needs placed item) :
    Free needs (placed ++ [item]) candidate ↔
      (Free needs placed candidate ∧ candidate ≠ item) ∨
        ∃ needed, needs[candidate]? = some needed ∧ item ∈ needed ∧
          ∀ other ∈ needed, other ∈ placed ++ [item] := by
  obtain ⟨notPlaced, itemNeeds, itemListed, itemClosed⟩ := free
  constructor
  · intro freeAfter
    obtain ⟨notPlacedAfter, needed, listed, closed⟩ := freeAfter
    rw [List.mem_append, not_or, List.mem_singleton] at notPlacedAfter
    by_cases needsItem : item ∈ needed
    · exact Or.inr ⟨needed, listed, needsItem, closed⟩
    · refine Or.inl ⟨⟨notPlacedAfter.1, needed, listed, ?_⟩, notPlacedAfter.2⟩
      intro other member
      rcases List.mem_append.mp (closed other member) with placedBefore | last
      · exact placedBefore
      · rw [List.mem_singleton] at last
        exact absurd (last ▸ member) needsItem
  · rintro (⟨⟨notPlacedBefore, needed, listed, closed⟩, different⟩ |
      ⟨needed, listed, needsItem, closed⟩)
    · refine ⟨by simp [notPlacedBefore, different], needed, listed, ?_⟩
      exact fun other member => List.mem_append_left _ (closed other member)
    · refine ⟨?_, needed, listed, closed⟩
      -- In a legal order, what needs the item cannot stand before it, nor be the item.
      intro placedAfter
      rcases List.mem_append.mp placedAfter with placedBefore | last
      · exact notPlaced (legal.needed_mem placedBefore listed needsItem)
      · rw [List.mem_singleton.mp last, itemListed] at listed
        obtain rfl := Option.some.inj listed
        exact notPlaced (itemClosed item needsItem)

/-- A step keeps the state consistent. -/
theorem Consistent.step
    (distinct : Distinct needs)
    (consistent : Consistent needs sorting)
    (stepped : sorting.step? needs = some next) :
    Consistent needs next := by
  obtain ⟨item, rest, ready, rfl⟩ := step?_eq_some_iff.mp stepped
  have free : Free needs sorting.placed item :=
    (consistent.mem_ready item).mp (by simp [ready])
  have waiting : waitingAfter needs item sorting.waiting =
      needs.map (openNeeds (sorting.placed ++ [item])) := by
    rw [consistent.waiting_eq, waitingAfter_eq distinct free.1]
  obtain ⟨itemLeast, restIncreasing⟩ :=
    List.pairwise_cons.mp (ready ▸ consistent.ready_increasing)
  have mem_rest : ∀ candidate, candidate ∈ rest ↔
      Free needs sorting.placed candidate ∧ candidate ≠ item := by
    intro candidate
    rw [← consistent.mem_ready candidate, ready, List.mem_cons]
    constructor
    · exact fun member => ⟨Or.inr member, Nat.ne_of_gt (itemLeast candidate member)⟩
    · rintro ⟨same | member, different⟩
      · exact absurd same different
      · exact member
  constructor
  · exact waiting
  · refine foldr_insertItem_increasing ?_ restIncreasing ?_
    · rw [freedBy_eq]
      exact placesWhere_increasing _ _
    · -- A freed item needs the placed one, so it was not ready before.
      intro freed freedMember inRest
      obtain ⟨⟨_, needed, listed, closed⟩, _⟩ := (mem_rest freed).mp inRest
      rw [waiting] at freedMember
      obtain ⟨sameNeeds, sameListed, needsItem, _⟩ := mem_freedBy.mp freedMember
      rw [listed] at sameListed
      obtain rfl := Option.some.inj sameListed
      exact free.1 (closed item needsItem)
  · intro candidate
    rw [(foldr_insertItem_perm _ rest).mem_iff, List.mem_append, waiting, mem_freedBy,
      mem_rest, free_snoc_iff consistent.legal free, or_comm]
  · exact legal_snoc.mpr ⟨consistent.legal, free⟩

/-! ## All steps -/

/-- Steps keep the state consistent. -/
theorem Consistent.run
    (distinct : Distinct needs)
    (steps : Nat)
    (consistent : Consistent needs sorting) :
    Consistent needs (Sorting.run needs steps sorting) := by
  induction steps generalizing sorting with
  | zero => exact consistent
  | succ steps inductionHypothesis =>
      unfold Sorting.run
      cases stepped : sorting.step? needs with
      | none => exact consistent
      | some next => exact inductionHypothesis (consistent.step distinct stepped)

/-- With as many steps as items are left, nothing stays ready. -/
theorem Consistent.run_ready_eq_nil
    (distinct : Distinct needs)
    {steps : Nat}
    (consistent : Consistent needs sorting)
    (enough : needs.length ≤ sorting.placed.length + steps) :
    (Sorting.run needs steps sorting).ready = [] := by
  induction steps generalizing sorting with
  | zero =>
      -- Every item is placed by then, and only others can be ready.
      have complete : sorting.placed.length = needs.length :=
        Nat.le_antisymm consistent.legal.length_le enough
      have allPlaced := consistent.legal.perm_range complete
      refine List.eq_nil_iff_forall_not_mem.mpr fun item isReady => ?_
      obtain ⟨notPlaced, needed, listed, _⟩ := (consistent.mem_ready item).mp isReady
      have inRange : item < needs.length := (List.getElem?_eq_some_iff.mp listed).1
      exact notPlaced (allPlaced.mem_iff.mpr (List.mem_range.mpr inRange))
  | succ steps inductionHypothesis =>
      unfold Sorting.run
      cases stepped : sorting.step? needs with
      | none => exact step?_eq_none_iff.mp stepped
      | some next =>
          refine inductionHypothesis (consistent.step distinct stepped) ?_
          obtain ⟨item, rest, _, rfl⟩ := step?_eq_some_iff.mp stepped
          simp only [List.length_append, List.length_singleton]
          omega

theorem ofNeeds_consistent (distinct : Distinct needs) : Consistent needs (ofNeeds needs) :=
  (start_consistent needs).run distinct needs.length

theorem ofNeeds_ready (distinct : Distinct needs) : (ofNeeds needs).ready = [] :=
  (start_consistent needs).run_ready_eq_nil distinct (Nat.le_add_left _ _)

/-- Each item that a finished sorting leaves out needs another one that it leaves out. -/
theorem exists_needed_left_out
    (distinct : Distinct needs)
    {item : Nat}
    {needed : List Nat}
    (listed : needs[item]? = some needed)
    (leftOut : item ∉ (ofNeeds needs).placed) :
    ∃ other ∈ needed, other ∉ (ofNeeds needs).placed := by
  by_contra allPlaced
  have free : Free needs (ofNeeds needs).placed item := by
    refine ⟨leftOut, needed, listed, ?_⟩
    intro other member
    by_contra notPlaced
    exact allPlaced ⟨other, member, notPlaced⟩
  have isReady := ((ofNeeds_consistent distinct).mem_ready item).mpr free
  rw [ofNeeds_ready distinct] at isReady
  simp at isReady

end Rollout.Sorting
