/-!
Contract: the members of an object, kept in the order of their names.

Owns: inserting a member at its place, replacing one of the same name; building
members from a list in which the last of several equal names counts; the order
of names as a predicate.

Does not own: the values that members hold.
-/

namespace Rollout.Json

variable {α : Type}

/-- Put a member at its place by name. A member of the same name is replaced. -/
def insertMember
    (name : String)
    (value : α) :
    List (String × α) → List (String × α)
  | [] => [(name, value)]
  | (first, held) :: rest =>
      if name = first then
        (name, value) :: rest
      else if name < first then
        (name, value) :: (first, held) :: rest
      else
        (first, held) :: insertMember name value rest

/-- Order members by name. Of several members of one name the last counts. -/
def orderMembers (members : List (String × α)) : List (String × α) :=
  members.foldl (fun ordered member => insertMember member.1 member.2 ordered) []

/-- The names of members are strictly increasing. -/
def Ordered (members : List (String × α)) : Prop :=
  members.Pairwise fun left right => left.1 < right.1

/-- After an insertion the inserted name has the inserted value and every other
name the value it had. -/
theorem lookup_insertMember
    (name : String)
    (value : α)
    (members : List (String × α))
    (sought : String) :
    (insertMember name value members).lookup sought =
      if sought = name then some value else members.lookup sought := by
  induction members with
  | nil =>
      by_cases equal : sought = name
      · simp [insertMember, equal]
      · simp [insertMember, List.lookup_cons, beq_false_of_ne equal, equal]
  | cons member rest inductionHypothesis =>
      obtain ⟨first, held⟩ := member
      unfold insertMember
      by_cases same : name = first
      · subst same
        by_cases equal : sought = name
        · simp [equal]
        · simp [List.lookup_cons, beq_false_of_ne equal, equal]
      · by_cases before : name < first
        · by_cases equal : sought = name
          · simp [same, before, equal]
          · simp [same, before, List.lookup_cons, beq_false_of_ne equal, equal]
        · rw [if_neg same, if_neg before]
          by_cases equal : sought = first
          · subst equal
            simp [Ne.symm same]
          · simp only [List.lookup_cons, beq_false_of_ne equal, inductionHypothesis]

end Rollout.Json
