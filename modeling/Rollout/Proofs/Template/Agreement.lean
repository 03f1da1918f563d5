import Rollout.Proofs.Template.Leaves
import Rollout.Template.Resolution

/-!
Contract: what the resolution of a template can depend on.

Owns:
- scopes that agree on a placeholder;
- that a text or a value has one and the same result in all scopes that agree on the
  placeholders in its slots.

Does not own: which placeholders a scope knows.
-/

namespace Rollout.Scope

variable {left right : Scope} {text : String} {placeholder : Placeholder}

/-- Two scopes have the same on record of what a placeholder asks for. -/
def AgreeOn (left right : Scope) : Placeholder → Prop
  | .address resource => left.registry.address? resource = right.registry.address? resource
  | .codeId resource => left.registry.codeId? resource = right.registry.codeId? resource
  | .var key => left.bindings.lookup key = right.bindings.lookup key

def AgreeOnSlots (left right : Scope) (texts : List String) : Prop :=
  ∀ text ∈ texts, ∀ placeholder ∈ Template.slots text, left.AgreeOn right placeholder

theorem agreeOnSlots_append {first second : List String} :
    left.AgreeOnSlots right (first ++ second) ↔
      left.AgreeOnSlots right first ∧ left.AgreeOnSlots right second :=
  List.forall_mem_append

/-! ## Texts -/

private theorem resolvePlaceholder_congr (agree : left.AgreeOn right placeholder) :
    left.resolvePlaceholder placeholder = right.resolvePlaceholder placeholder := by
  have sameText : left.lookup? placeholder = right.lookup? placeholder := by
    cases placeholder with
    | address resource => exact agree
    | codeId resource => exact congrArg (Option.map codeIdText) agree
    | var key => exact agree
  unfold resolvePlaceholder
  rw [sameText]

private theorem resolvePieces_congr
    {pieces : List Piece}
    (agree : ∀ placeholder ∈ pieces.filterMap Piece.placeholder?,
      left.AgreeOn right placeholder) :
    left.resolvePieces pieces = right.resolvePieces pieces := by
  induction pieces with
  | nil => rfl
  | cons piece rest inductionHypothesis =>
      cases piece with
      | literal literalText =>
          have sameRest := inductionHypothesis agree
          rw [resolvePieces, resolvePieces, sameRest]
      | slot placeholder =>
          have agreeAll := List.forall_mem_cons.mp agree
          have sameRest := inductionHypothesis agreeAll.2
          rw [resolvePieces, resolvePieces, resolvePlaceholder_congr agreeAll.1, sameRest]

theorem resolveText_congr
    (agree : ∀ placeholder ∈ Template.slots text, left.AgreeOn right placeholder) :
    left.resolveText text = right.resolveText text := by
  unfold resolveText
  cases read : Template.pieces text with
  | error fault => rfl
  | ok pieces =>
      rw [Template.slots_of_pieces read] at agree
      exact resolvePieces_congr agree

private theorem resolveString_congr
    (agree : ∀ placeholder ∈ Template.slots text, left.AgreeOn right placeholder) :
    left.resolveString text = right.resolveString text := by
  unfold resolveString
  split
  · rfl
  · rename_i resource read
    rw [Template.slots_of_pieces read] at agree
    have sameCode : left.registry.codeId? resource = right.registry.codeId? resource :=
      agree (.codeId resource) (by simp [Piece.placeholder?])
    rw [sameCode]
  · rename_i pieces _ read
    rw [Template.slots_of_pieces read] at agree
    rw [resolvePieces_congr agree]

/-! ## Values -/

mutual

/-- A value is resolved alike in scopes that agree on its slots. -/
theorem resolve_congr : ∀ value : Json,
    left.AgreeOnSlots right value.leaves → left.resolve value = right.resolve value
  | .string text, agree => by
      rw [resolve, resolve]
      exact resolveString_congr (agree text (by simp [Json.leaves]))
  | .array items, agree => by
      rw [resolve, resolve, resolveItems_congr items agree]
  | .object members, agree => by
      rw [resolve, resolve, resolveMembers_congr members agree]
  | .null, _ | .bool _, _ | .number _, _ => by
      rw [resolve, resolve]

theorem resolveItems_congr : ∀ items : List Json,
    left.AgreeOnSlots right (Json.leavesOfItems items) →
      left.resolveItems items = right.resolveItems items
  | [], _ => by
      rw [resolveItems, resolveItems]
  | item :: rest, agree => by
      have agreeBoth := agreeOnSlots_append.mp agree
      rw [resolveItems, resolveItems, resolve_congr item agreeBoth.1,
        resolveItems_congr rest agreeBoth.2]

theorem resolveMembers_congr : ∀ members : List (String × Json),
    left.AgreeOnSlots right (Json.leavesOfMembers members) →
      left.resolveMembers members = right.resolveMembers members
  | [], _ => by
      rw [resolveMembers, resolveMembers]
  | (name, value) :: rest, agree => by
      have agreeBoth := agreeOnSlots_append.mp agree
      rw [resolveMembers, resolveMembers, resolve_congr value agreeBoth.1,
        resolveMembers_congr rest agreeBoth.2]

end

end Rollout.Scope
