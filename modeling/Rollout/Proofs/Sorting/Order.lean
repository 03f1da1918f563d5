import Mathlib.Data.List.Induction
import Mathlib.Data.List.Nodup
import Mathlib.Data.List.Perm.Subperm
import Rollout.Graph.Sorting

/-!
Contract: orders of numbered items in which each comes after the items that it needs.

Owns:
- when an item may be placed after others, and the orders that place each item when
  it may be placed;
- what follows for the items of such an order.

Does not own: how an order is found. An order may be partial: it need not hold all items.
-/

namespace Rollout.Sorting

variable {needs : List (List Nat)} {placed order : List Nat} {item other : Nat}

/-- An item that is not placed and needs only placed items. -/
def Free
    (needs : List (List Nat))
    (placed : List Nat)
    (item : Nat) :
    Prop :=
  item ∉ placed ∧ ∃ needed, needs[item]? = some needed ∧ ∀ other ∈ needed, other ∈ placed

/-- An order in which each item is free when those before it are placed. -/
def Legal
    (needs : List (List Nat))
    (order : List Nat) :
    Prop :=
  ∀ before item after, order = before ++ item :: after → Free needs before item

theorem legal_nil : Legal needs [] := by
  intro before item after split
  simp at split

/-- What holds of each item and those before it in a list with one more item at its end
holds in the list, and of that item. -/
theorem forall_split_snoc
    {α : Type}
    {holds : List α → α → Prop}
    {items : List α}
    {last : α} :
    (∀ before item after, items ++ [last] = before ++ item :: after → holds before item) ↔
      (∀ before item after, items = before ++ item :: after → holds before item) ∧
        holds items last := by
  constructor
  · intro each
    refine ⟨?_, each items last [] rfl⟩
    intro before item after split
    exact each before item (after ++ [last]) (by simp [split])
  · rintro ⟨each, atLast⟩ before item after split
    rcases List.eq_nil_or_concat after with rfl | ⟨others, final, rfl⟩
    · obtain ⟨rfl, sameLast⟩ := List.append_inj' split rfl
      obtain rfl := List.singleton_inj.mp sameLast
      exact atLast
    · have shifted : items ++ [last] = (before ++ item :: others) ++ [final] := by
        simp [split]
      obtain ⟨sameItems, _⟩ := List.append_inj' shifted rfl
      exact each before item others sameItems

/-- One more item may stand at the end of an order exactly if it is free there. -/
theorem legal_snoc : Legal needs (order ++ [item]) ↔ Legal needs order ∧ Free needs order item :=
  forall_split_snoc

namespace Legal

theorem nodup (legal : Legal needs order) : order.Nodup := by
  induction order using List.reverseRecOn with
  | nil => exact List.nodup_nil
  | append_singleton order item inductionHypothesis =>
      obtain ⟨shorter, notPlaced, _⟩ := legal_snoc.mp legal
      exact List.nodup_append_comm.mp
        (List.nodup_cons.mpr ⟨notPlaced, inductionHypothesis shorter⟩)

/-- Every item of an order has its needs listed. -/
theorem needs_listed
    (legal : Legal needs order)
    (member : item ∈ order) :
    ∃ needed, needs[item]? = some needed := by
  obtain ⟨before, after, split⟩ := List.append_of_mem member
  obtain ⟨_, needed, listed, _⟩ := legal before item after split
  exact ⟨needed, listed⟩

theorem item_lt
    (legal : Legal needs order)
    (member : item ∈ order) :
    item < needs.length := by
  obtain ⟨needed, listed⟩ := legal.needs_listed member
  exact (List.getElem?_eq_some_iff.mp listed).1

/-- What an item of an order needs stands before it. -/
theorem needed_before
    {before after needed : List Nat}
    (legal : Legal needs (before ++ item :: after))
    (listed : needs[item]? = some needed)
    (member : other ∈ needed) :
    other ∈ before := by
  obtain ⟨_, held, heldListed, placedBefore⟩ := legal before item after rfl
  rw [listed] at heldListed
  obtain rfl := Option.some.inj heldListed
  exact placedBefore other member

theorem needed_mem
    {needed : List Nat}
    (legal : Legal needs order)
    (inOrder : item ∈ order)
    (listed : needs[item]? = some needed)
    (member : other ∈ needed) :
    other ∈ order := by
  obtain ⟨before, after, rfl⟩ := List.append_of_mem inOrder
  exact List.mem_append_left _ (legal.needed_before listed member)

/-- What an item of an order needs has a smaller place in it. -/
theorem idxOf_needed_lt
    {needed : List Nat}
    (legal : Legal needs order)
    (inOrder : item ∈ order)
    (listed : needs[item]? = some needed)
    (member : other ∈ needed) :
    order.idxOf other < order.idxOf item := by
  obtain ⟨before, after, rfl⟩ := List.append_of_mem inOrder
  have otherBefore := legal.needed_before listed member
  have notBefore : item ∉ before := (legal before item after rfl).1
  calc
    (before ++ item :: after).idxOf other = before.idxOf other :=
      List.idxOf_append_of_mem otherBefore
    _ < before.length := List.idxOf_lt_length_of_mem otherBefore
    _ ≤ (before ++ item :: after).idxOf item := by
      rw [List.idxOf_append_of_notMem notBefore]
      exact Nat.le_add_right _ _

/-- An order of as many items as there are holds them all. -/
theorem perm_range
    (legal : Legal needs order)
    (complete : order.length = needs.length) :
    order.Perm (List.range needs.length) := by
  have inRange : order ⊆ List.range needs.length :=
    fun item member => List.mem_range.mpr (legal.item_lt member)
  refine (List.subperm_of_subset legal.nodup inRange).perm_of_length_le ?_
  exact Nat.le_of_eq (List.length_range.trans complete.symm)

theorem length_le (legal : Legal needs order) : order.length ≤ needs.length := by
  have inRange : order ⊆ List.range needs.length :=
    fun item member => List.mem_range.mpr (legal.item_lt member)
  calc
    order.length ≤ (List.range needs.length).length :=
      (List.subperm_of_subset legal.nodup inRange).length_le
    _ = needs.length := List.length_range

end Legal

end Rollout.Sorting
