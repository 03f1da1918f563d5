import Rollout.Registry
import Rollout.Template

/-!
Contract: filling the slots of templates from what is known.

Owns:
- what a placeholder stands for, given a registry and variables;
- the resolved form of texts, values and targets;
- the faults of a resolution and their wording.

Does not own: the pieces of a text.
-/

namespace Rollout

/-- The variables of a run by key. -/
abbrev Variables := List (String × String)

inductive ResolveFault where
  | malformed (fault : TemplateFault)
  /-- The placeholder stands for nothing that is known. -/
  | unresolved (placeholder : Placeholder)
  deriving DecidableEq, Repr

def ResolveFault.message : ResolveFault → String
  | .malformed fault => fault.message
  | .unresolved placeholder => "unresolved placeholder " ++ placeholder.text

/-- What placeholders can refer to. -/
structure Scope where
  registry : Registry
  bindings : Variables
  deriving Repr

namespace Scope

/-! ## Placeholders -/

def codeIdText (codeId : CodeId) : String :=
  String.ofList (Nat.toDigits 10 codeId.toNat)

/-- The text that a placeholder stands for. -/
def lookup?
    (scope : Scope) :
    Placeholder → Option String
  | .address resource => scope.registry.address? resource
  | .codeId resource => (scope.registry.codeId? resource).map codeIdText
  | .var key => scope.bindings.lookup key

/-- The text of a placeholder, or the fault that it has none. -/
def resolvePlaceholder
    (scope : Scope)
    (placeholder : Placeholder) :
    Except ResolveFault String :=
  match scope.lookup? placeholder with
  | some text => .ok text
  | none => .error (.unresolved placeholder)

/-! ## Texts -/

/-- The text of pieces, in order, up to the first slot that stands for nothing. -/
def resolvePieces (scope : Scope) : List Piece → Except ResolveFault String
  | [] => .ok ""
  | .literal text :: rest =>
      match scope.resolvePieces rest with
      | .ok resolved => .ok (text ++ resolved)
      | .error fault => .error fault
  | .slot placeholder :: rest =>
      match scope.resolvePlaceholder placeholder with
      | .error fault => .error fault
      | .ok text =>
          match scope.resolvePieces rest with
          | .ok resolved => .ok (text ++ resolved)
          | .error fault => .error fault

/-- The resolved form of a text. The whole text is read before any slot is
filled, and what fills a slot is not read again. -/
def resolveText
    (scope : Scope)
    (text : String) :
    Except ResolveFault String :=
  match Template.pieces text with
  | .error fault => .error (.malformed fault)
  | .ok pieces => scope.resolvePieces pieces

/-! ## Values -/

/-- The resolved form of a string in a value. A string that is one slot for a
code id becomes a number. -/
def resolveString
    (scope : Scope)
    (text : String) :
    Except ResolveFault Json :=
  match Template.pieces text with
  | .error fault => .error (.malformed fault)
  | .ok [.slot (.codeId resource)] =>
      match scope.registry.codeId? resource with
      | some codeId => .ok (Json.ofNat codeId.toNat)
      | none => .error (.unresolved (.codeId resource))
  | .ok pieces =>
      match scope.resolvePieces pieces with
      | .ok resolved => .ok (.string resolved)
      | .error fault => .error fault

mutual

/-- The resolved form of a value. Only strings change, and never the names of
members. -/
def resolve (scope : Scope) : Json → Except ResolveFault Json
  | .string text => scope.resolveString text
  | .array items =>
      match scope.resolveItems items with
      | .ok resolved => .ok (.array resolved)
      | .error fault => .error fault
  | .object members =>
      match scope.resolveMembers members with
      | .ok resolved => .ok (.object resolved)
      | .error fault => .error fault
  | .null => .ok .null
  | .bool value => .ok (.bool value)
  | .number value => .ok (.number value)

def resolveItems (scope : Scope) : List Json → Except ResolveFault (List Json)
  | [] => .ok []
  | item :: rest =>
      match scope.resolve item with
      | .error fault => .error fault
      | .ok resolved =>
          match scope.resolveItems rest with
          | .ok others => .ok (resolved :: others)
          | .error fault => .error fault

def resolveMembers (scope : Scope) :
    List (String × Json) → Except ResolveFault (List (String × Json))
  | [] => .ok []
  | (name, value) :: rest =>
      match scope.resolve value with
      | .error fault => .error fault
      | .ok resolved =>
          match scope.resolveMembers rest with
          | .ok others => .ok ((name, resolved) :: others)
          | .error fault => .error fault

end

/-! ## Targets -/

/-- The address that a target stands for: a template if it opens a slot, and
otherwise the name of a resource. -/
def resolveTarget
    (scope : Scope)
    (target : String) :
    Except ResolveFault String :=
  if Template.opensSlot target.toList then
    scope.resolveText target
  else
    scope.resolvePlaceholder (.address target)

end Scope

end Rollout
