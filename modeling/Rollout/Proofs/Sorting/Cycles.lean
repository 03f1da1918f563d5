import Mathlib.Data.Fintype.Pigeonhole
import Mathlib.Data.Nat.SuccPred
import Mathlib.Data.Set.Finite.Lattice
import Mathlib.Logic.Relation
import Mathlib.Order.Interval.Finset.Nat
import Mathlib.Order.SuccPred.Relation
import Rollout.Proofs.Sorting.Consistency

/-!
Contract: which items a sorting leaves out.

Owns:
- the relation between an item and the items that it needs, and its cycles;
- that the items left out are those from which a cycle can be reached;
- that all items are placed exactly if there is no cycle.

Does not own: the names of items.
-/

namespace Rollout.Sorting

open Relation

/-! ## Cycles in finite sets -/

/-- A finite set in which everything leads on to something leads into a cycle. -/
private theorem exists_cycle_of_finite
    {α : Type}
    {leads : α → α → Prop}
    {members : Set α}
    (finite : members.Finite)
    (goesOn : ∀ item ∈ members, ∃ other ∈ members, leads item other)
    {item : α}
    (member : item ∈ members) :
    ∃ other, ReflTransGen leads item other ∧ TransGen leads other other := by
  have : Finite members := finite
  choose next next_mem leads_next using goesOn
  let advance : members → members := fun current => ⟨next current current.2, next_mem _ _⟩
  let visit : Nat → members := fun steps => advance^[steps] ⟨item, member⟩
  have leads_visit : ∀ steps, leads (visit steps) (visit (steps + 1)) := by
    intro steps
    have following : visit (steps + 1) = advance (visit steps) :=
      Function.iterate_succ_apply' advance steps _
    rw [following]
    exact leads_next _ _
  -- Among infinitely many visits two are to the same place.
  obtain ⟨first, second, different, samePlace⟩ :=
    Finite.exists_ne_map_eq_of_infinite visit
  wlog earlier : first < second generalizing first second
  · exact this second first different.symm samePlace.symm
      (Nat.lt_of_le_of_ne (Nat.le_of_not_lt earlier) different.symm)
  have reached : ReflTransGen leads item (visit first) :=
    (reflTransGen_of_succ_of_le (fun left right => leads (visit left) (visit right))
      (fun steps _ => leads_visit steps) (Nat.zero_le first)).lift
      (fun steps => (visit steps : α)) fun _ _ step => step
  have around : TransGen leads (visit first) (visit second) :=
    (transGen_of_succ_of_lt (fun left right => leads (visit left) (visit right))
      (fun steps _ => leads_visit steps) earlier).lift
      (fun steps => (visit steps : α)) fun _ _ step => step
  exact ⟨visit first, reached, samePlace ▸ around⟩

/-! ## Cycles of needs -/

variable {needs : List (List Nat)} {item other : Nat}

def Needs
    (needs : List (List Nat))
    (item other : Nat) :
    Prop :=
  ∃ needed, needs[item]? = some needed ∧ other ∈ needed

def InRange (needs : List (List Nat)) : Prop :=
  ∀ needed ∈ needs, ∀ other ∈ needed, other < needs.length

/-- From an item a cycle of needs can be reached. -/
def ReachesCycle
    (needs : List (List Nat))
    (item : Nat) :
    Prop :=
  ∃ other, ReflTransGen (Needs needs) item other ∧ TransGen (Needs needs) other other

private theorem Needs.lt
    (inRange : InRange needs)
    (needsOther : Needs needs item other) :
    other < needs.length := by
  obtain ⟨needed, listed, member⟩ := needsOther
  exact inRange needed (List.mem_of_getElem? listed) other member

/-- What the items of a legal order need, directly or through others, stands before
them. -/
theorem Legal.idxOf_lt_of_transGen
    {order : List Nat}
    (legal : Legal needs order)
    (inOrder : item ∈ order)
    (path : TransGen (Needs needs) item other) :
    other ∈ order ∧ order.idxOf other < order.idxOf item := by
  induction path with
  | single step =>
      obtain ⟨needed, listed, member⟩ := step
      exact ⟨legal.needed_mem inOrder listed member,
        legal.idxOf_needed_lt inOrder listed member⟩
  | tail _ step inductionHypothesis =>
      obtain ⟨middleInOrder, middleBefore⟩ := inductionHypothesis
      obtain ⟨needed, listed, member⟩ := step
      exact ⟨legal.needed_mem middleInOrder listed member,
        (legal.idxOf_needed_lt middleInOrder listed member).trans middleBefore⟩

private theorem Legal.not_reachesCycle
    {order : List Nat}
    (legal : Legal needs order)
    (inOrder : item ∈ order) :
    ¬ ReachesCycle needs item := by
  intro reaches
  obtain ⟨other, path, cycle⟩ := reaches
  have otherInOrder : other ∈ order := by
    rcases reflTransGen_iff_eq_or_transGen.mp path with rfl | longer
    · exact inOrder
    · exact (legal.idxOf_lt_of_transGen inOrder longer).1
  exact Nat.lt_irrefl _ (legal.idxOf_lt_of_transGen otherInOrder cycle).2

/-- The items that a finished sorting leaves out are those that lead to a cycle. -/
theorem notMem_placed_iff
    (distinct : Distinct needs)
    (inRange : InRange needs)
    (item_lt : item < needs.length) :
    item ∉ (ofNeeds needs).placed ↔ ReachesCycle needs item := by
  constructor
  · intro leftOut
    -- What is left out always leads on to more that is left out.
    let remainder : Set Nat := {item | item < needs.length ∧ item ∉ (ofNeeds needs).placed}
    have finite : remainder.Finite :=
      (Set.finite_Iio needs.length).subset fun candidate member => member.1
    refine exists_cycle_of_finite finite ?_ (show item ∈ remainder from ⟨item_lt, leftOut⟩)
    rintro candidate ⟨candidate_lt, candidateLeftOut⟩
    have listed : needs[candidate]? = some needs[candidate] :=
      List.getElem?_eq_getElem candidate_lt
    obtain ⟨needed, member, neededLeftOut⟩ :=
      exists_needed_left_out distinct listed candidateLeftOut
    have needsIt : Needs needs candidate needed := ⟨_, listed, member⟩
    exact ⟨needed, ⟨needsIt.lt inRange, neededLeftOut⟩, needsIt⟩
  · intro reaches placed
    exact (ofNeeds_consistent distinct).legal.not_reachesCycle placed reaches

/-- All items are placed exactly if no item needs itself, directly or through others. -/
theorem placed_length_eq_iff
    (distinct : Distinct needs)
    (inRange : InRange needs) :
    (ofNeeds needs).placed.length = needs.length ↔
      ∀ item, ¬ TransGen (Needs needs) item item := by
  have legal := (ofNeeds_consistent distinct).legal
  constructor
  · intro complete item cycle
    have item_lt : item < needs.length := by
      obtain ⟨_, _, last⟩ := TransGen.tail'_iff.mp cycle
      exact last.lt inRange
    have placed : item ∈ (ofNeeds needs).placed :=
      (legal.perm_range complete).mem_iff.mpr (List.mem_range.mpr item_lt)
    exact legal.not_reachesCycle placed ⟨item, ReflTransGen.refl, cycle⟩
  · intro acyclic
    have allPlaced : List.range needs.length ⊆ (ofNeeds needs).placed := by
      intro item member
      by_contra leftOut
      obtain ⟨other, _, cycle⟩ :=
        (notMem_placed_iff distinct inRange (List.mem_range.mp member)).mp leftOut
      exact acyclic other cycle
    refine Nat.le_antisymm legal.length_le ?_
    calc
      needs.length = (List.range needs.length).length := List.length_range.symm
      _ ≤ (ofNeeds needs).placed.length :=
        (List.subperm_of_subset List.nodup_range allPlaced).length_le

end Rollout.Sorting
