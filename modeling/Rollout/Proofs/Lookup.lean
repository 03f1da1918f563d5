import Mathlib.Data.List.Nodup

/-!
Contract: what is found under a name in a list of names and values.

Owns:
- that an entry of another name is passed over;
- that what is found is in the list, and what is in the list is found if no name stands
  twice.

Does not own: lists that are kept in an order.
-/

namespace Rollout

variable {α : Type} {entries : List (String × α)} {name : String} {value : α}

theorem lookup_cons_of_ne
    {first : String}
    (different : name ≠ first)
    (held : α)
    (rest : List (String × α)) :
    ((first, held) :: rest).lookup name = rest.lookup name := by
  rw [List.lookup_cons, beq_false_of_ne different]

theorem mem_of_lookup (found : entries.lookup name = some value) :
    (name, value) ∈ entries := by
  obtain ⟨before, after, split, _⟩ := List.lookup_eq_some_iff.mp found
  rw [split]
  exact List.mem_append_right _ List.mem_cons_self

theorem lookup_of_mem
    (distinct : (entries.map Prod.fst).Nodup)
    (member : (name, value) ∈ entries) :
    entries.lookup name = some value := by
  induction entries with
  | nil => exact absurd member List.not_mem_nil
  | cons entry rest inductionHypothesis =>
      obtain ⟨first, held⟩ := entry
      obtain ⟨fresh, restDistinct⟩ := List.nodup_cons.mp distinct
      rcases List.mem_cons.mp member with same | inRest
      · cases same
        exact List.lookup_cons_self
      · have different : name ≠ first := by
          intro same
          exact fresh (List.mem_map.mpr ⟨(name, value), inRest, same⟩)
        rw [lookup_cons_of_ne different]
        exact inductionHypothesis restDistinct inRest

end Rollout
