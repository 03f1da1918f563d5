import Rollout.Proofs.Sorting.Consistency

/-!
Contract: which of the legal orders of numbered items a sorting finds.

Owns:
- greedy orders, in which each item is the least of those that are free at its place;
- that a sorting places its items in greedy order;
- that a greedy order is lexicographically before every other legal order of as many
  items, and when it is the order of the numbers.

Does not own: whether all items are placed.
-/

namespace Rollout.Sorting

variable {needs : List (List Nat)} {sorting next : Sorting} {order other : List Nat}
  {item count : Nat}

/-- A legal order in which each item is the least that may be placed there. -/
structure Greedy (needs : List (List Nat)) (order : List Nat) : Prop where
  legal : Legal needs order
  least : ∀ before item after, order = before ++ item :: after →
    ∀ candidate, Free needs before candidate → item ≤ candidate

/-! ## Greedy steps -/

private theorem greedy_nil : Greedy needs [] := by
  refine ⟨legal_nil, ?_⟩
  intro before item after split
  simp at split

private theorem Greedy.snoc
    (greedy : Greedy needs order)
    (free : Free needs order item)
    (least : ∀ candidate, Free needs order candidate → item ≤ candidate) :
    Greedy needs (order ++ [item]) := by
  constructor
  · exact legal_snoc.mpr ⟨greedy.legal, free⟩
  · exact forall_split_snoc.mpr ⟨greedy.least, least⟩

/-- A step places the least of the free items. -/
theorem Greedy.step
    (consistent : Consistent needs sorting)
    (greedy : Greedy needs sorting.placed)
    (stepped : sorting.step? needs = some next) :
    Greedy needs next.placed := by
  rcases step?_eq_some_iff.mp stepped with ⟨item, rest, ready, rfl⟩
  have increasing := consistent.ready_increasing
  rw [ready] at increasing
  have itemLeast := (List.pairwise_cons.mp increasing).1
  have free : Free needs sorting.placed item := by
    rw [← consistent.mem_ready item, ready]
    exact List.mem_cons_self
  apply greedy.snoc free
  intro candidate candidateFree
  have candidateReady := (consistent.mem_ready candidate).mpr candidateFree
  rw [ready] at candidateReady
  rcases List.mem_cons.mp candidateReady with same | inRest
  · exact Nat.le_of_eq same.symm
  · exact Nat.le_of_lt (itemLeast candidate inRest)

private theorem Greedy.run
    (distinct : Distinct needs)
    (steps : Nat)
    (consistent : Consistent needs sorting)
    (greedy : Greedy needs sorting.placed) :
    Greedy needs (Sorting.run needs steps sorting).placed := by
  induction steps generalizing sorting with
  | zero => exact greedy
  | succ steps inductionHypothesis =>
      unfold Sorting.run
      cases stepped : sorting.step? needs with
      | none => exact greedy
      | some next =>
          have nextConsistent := consistent.step distinct stepped
          exact inductionHypothesis nextConsistent (greedy.step consistent stepped)

theorem ofNeeds_greedy (distinct : Distinct needs) : Greedy needs (ofNeeds needs).placed :=
  greedy_nil.run distinct needs.length (start_consistent needs)

/-! ## The first of the legal orders -/

/-- The order after a common beginning: where a greedy order and a legal one first
differ, the greedy one has the lesser item. -/
private theorem eq_or_lt_of_common_beginning
    {before rest others : List Nat}
    (greedy : Greedy needs (before ++ rest))
    (legal : Legal needs (before ++ others))
    (sameLength : others.length = rest.length) :
    rest = others ∨ rest < others := by
  -- By induction on what is left of the greedy order. The common beginning takes up the
  -- next item as long as both orders have the same.
  induction rest generalizing before others with
  | nil =>
      have noOthers : others = [] := List.length_eq_zero_iff.mp sameLength
      exact Or.inl noOthers.symm
  | cons item rest inductionHypothesis =>
      rcases List.exists_cons_of_length_eq_add_one sameLength with ⟨candidate, others, rfl⟩
      have candidateFree := legal before candidate others rfl
      have itemLe := greedy.least before item rest rfl candidate candidateFree
      rw [List.cons_lt_cons_iff, List.cons.injEq]
      rcases Nat.lt_or_eq_of_le itemLe with below | same
      · exact Or.inr (Or.inl below)
      · subst same
        have restGreedy : Greedy needs ((before ++ [item]) ++ rest) := by
          rwa [List.append_assoc]
        have restLegal : Legal needs ((before ++ [item]) ++ others) := by
          rwa [List.append_assoc]
        have restLength : others.length = rest.length := Nat.succ.inj sameLength
        rcases inductionHypothesis restGreedy restLegal restLength with equal | less
        · exact Or.inl ⟨rfl, equal⟩
        · exact Or.inr (Or.inr ⟨rfl, less⟩)

/-- A greedy order comes before every other legal order of as many items. -/
theorem Greedy.eq_or_lt
    (greedy : Greedy needs order)
    (legal : Legal needs other)
    (sameLength : other.length = order.length) :
    order = other ∨ order < other := by
  have fromStart : Greedy needs ([] ++ order) := greedy
  exact eq_or_lt_of_common_beginning fromStart legal sameLength

private theorem Greedy.unique
    (greedy : Greedy needs order)
    (otherGreedy : Greedy needs other)
    (sameLength : other.length = order.length) :
    order = other := by
  rcases greedy.eq_or_lt otherGreedy.legal sameLength with same | less
  · exact same
  · rcases otherGreedy.eq_or_lt greedy.legal sameLength.symm with same | greater
    · exact same.symm
    · exact absurd greater (List.lt_asymm less)

/-! ## The order of the numbers -/

/-- The order of the numbers is greedy where it is legal: what is less than an item
stands before it. -/
private theorem greedy_range (legal : Legal needs (List.range count)) :
    Greedy needs (List.range count) := by
  refine ⟨legal, ?_⟩
  intro before item after split candidate candidateFree
  by_contra notLe
  have below : candidate < item := Nat.lt_of_not_le notLe
  have item_lt : item < count := by
    rw [← List.mem_range, split]
    simp
  have inRange : candidate ∈ before ++ item :: after := by
    rw [← split, List.mem_range]
    omega
  have increasing : (before ++ item :: after).Pairwise (· < ·) := by
    rw [← split]
    exact List.pairwise_lt_range
  have laterGreater := (List.pairwise_cons.mp (List.pairwise_append.mp increasing).2.1).1
  rcases List.mem_append.mp inRange with isBefore | fromItem
  · exact candidateFree.1 isBefore
  · rcases List.mem_cons.mp fromItem with same | isAfter
    · omega
    · have := laterGreater candidate isAfter
      omega

/-- A sorting that places all items keeps them in the order of their numbers exactly if
that order is legal. -/
theorem placed_eq_range_iff
    (distinct : Distinct needs)
    (complete : (ofNeeds needs).placed.length = needs.length) :
    (ofNeeds needs).placed = List.range needs.length ↔
      Legal needs (List.range needs.length) := by
  constructor
  · intro same
    rw [← same]
    exact (ofNeeds_greedy distinct).legal
  · intro legal
    apply (ofNeeds_greedy distinct).unique (greedy_range legal)
    rw [List.length_range, complete]

end Rollout.Sorting
