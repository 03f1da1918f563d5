import Rollout.Json.Reader
import Rollout.Proofs.Json.Members

/-!
Contract: the form of the values that reading a text gives.

Owns:
- nesting up to a depth, with members in the order of their names;
- the numbers that a value holds;
- that a value which was read is nested no deeper than reading allows.

Does not own: which texts can be read.
-/

namespace Rollout.Json

/-- At most `depth` arrays and objects are nested, and the members of every object are
in order. -/
def Nested : Nat → Json → Prop
  | depth + 1, .array items => ∀ item ∈ items, Nested depth item
  | depth + 1, .object members =>
      Ordered members ∧ ∀ member ∈ members, Nested depth member.2
  | 0, .array _ | 0, .object _ => False
  | _, .null | _, .bool _ | _, .number _ | _, .string _ => True

inductive HasNumber (number : Number) : Json → Prop where
  | here : HasNumber number (.number number)
  | inItem {item : Json} {items : List Json}
      (member : item ∈ items)
      (held : HasNumber number item) :
      HasNumber number (.array items)
  | inMember {member : String × Json} {members : List (String × Json)}
      (isMember : member ∈ members)
      (held : HasNumber number member.2) :
      HasNumber number (.object members)

variable {depth : Nat} {value : Json}

/-! ## Values that were read -/

private theorem exists_item_of_itemValues?
    {items : List Tree}
    {values : List Json}
    (read : itemValues? depth items = some values) :
    ∀ value ∈ values, ∃ item ∈ items, item.value? depth = some value := by
  induction items generalizing values with
  | nil =>
      cases read
      exact fun value member => absurd member List.not_mem_nil
  | cons item rest inductionHypothesis =>
      unfold itemValues? at read
      split at read
      · rename_i first others readFirst readRest
        cases read
        intro value member
        rcases List.mem_cons.mp member with rfl | inRest
        · exact ⟨item, List.mem_cons_self, readFirst⟩
        · obtain ⟨later, isLater, readLater⟩ := inductionHypothesis readRest value inRest
          exact ⟨later, List.mem_cons_of_mem _ isLater, readLater⟩
      · cases read

private theorem exists_item_of_memberValues?
    {members : List (List TextUnit × Tree)}
    {values : List (String × Json)}
    (read : memberValues? depth members = some values) :
    ∀ member ∈ values, ∃ item : Tree, item.value? depth = some member.2 := by
  induction members generalizing values with
  | nil =>
      cases read
      exact fun member isMember => absurd isMember List.not_mem_nil
  | cons member rest inductionHypothesis =>
      unfold memberValues? at read
      split at read
      · rename_i name first others _ readFirst readRest
        cases read
        intro value isMember
        rcases List.mem_cons.mp isMember with rfl | inRest
        · exact ⟨member.2, readFirst⟩
        · exact inductionHypothesis readRest value inRest
      · cases read

theorem nested_scalar
    (noArray : ∀ items, value ≠ .array items)
    (noObject : ∀ members, value ≠ .object members) :
    value.Nested depth := by
  cases value with
  | array items => exact absurd rfl (noArray items)
  | object members => exact absurd rfl (noObject members)
  | _ => cases depth <;> trivial

private theorem nested_of_value? : ∀ {depth : Nat} {tree : Tree} {value : Json},
    tree.value? depth = some value → value.Nested depth
  | depth, .null, _, read => by
      cases read
      exact nested_scalar nofun nofun
  | depth, .bool truth, _, read => by
      cases read
      exact nested_scalar nofun nofun
  | depth, .number numeral, _, read => by
      obtain ⟨number, _, rfl⟩ := Option.map_eq_some_iff.mp read
      exact nested_scalar nofun nofun
  | depth, .string units, _, read => by
      obtain ⟨text, _, rfl⟩ := Option.map_eq_some_iff.mp read
      exact nested_scalar nofun nofun
  | 0, .array _, _, read | 0, .object _, _, read => by cases read
  | depth + 1, .array items, _, read => by
      obtain ⟨values, readItems, rfl⟩ := Option.map_eq_some_iff.mp read
      intro value member
      obtain ⟨item, _, readItem⟩ := exists_item_of_itemValues? readItems value member
      exact nested_of_value? readItem
  | depth + 1, .object members, _, read => by
      obtain ⟨values, readMembers, rfl⟩ := Option.map_eq_some_iff.mp read
      refine ⟨ordered_orderMembers values, fun member isMember => ?_⟩
      obtain ⟨item, readItem⟩ :=
        exists_item_of_memberValues? readMembers member (mem_orderMembers isMember)
      exact nested_of_value? readItem

/-- A value that was read is nested no deeper than reading allows. -/
theorem nested_of_ofText?
    {text : String}
    (read : ofText? text = some value) :
    value.Nested depthLimit := by
  unfold ofText? ofCharacters? at read
  split at read
  · exact nested_of_value? read
  · cases read

end Rollout.Json
