/-!
Contract: the placeholders of a template, such as the one for
the address of a resource.

Owns:
- the three kinds of placeholder and the text of each;
- reading the inside of a slot as a placeholder;
- the faults of a template and their wording.

Does not own: finding the slots of a text, and what placeholders stand for.
-/

namespace Rollout

/-- What a slot of a template asks for. -/
inductive Placeholder where
  | address (resource : String)
  /-- The code id that a resource was instantiated from. -/
  | codeId (resource : String)
  /-- A variable of the run. -/
  | var (key : String)
  deriving DecidableEq, Repr

/-- What is wrong with a template. The text between the braces of a slot is its
inside. -/
inductive TemplateFault where
  | unnamedVariable (inside : String)
  | missingField (inside : String)
  | unnamedResource (inside : String)
  | unknownField (field inside : String)
  | unterminated (template : String)
  deriving DecidableEq, Repr

/-- A slot with its braces. -/
def slotText (inside : String) : String :=
  "$\x7b" ++ inside ++ "\x7d"

def TemplateFault.detail : TemplateFault → String
  | .unnamedVariable inside => "`" ++ slotText inside ++ "` names no variable"
  | .missingField inside => "`" ++ slotText inside ++ "` has no field"
  | .unnamedResource inside => "`" ++ slotText inside ++ "` names no resource"
  | .unknownField field inside =>
      "unknown field `" ++ field ++ "` in `" ++ slotText inside ++ "`"
  | .unterminated template => "unterminated `$\x7b` in `" ++ template ++ "`"

def TemplateFault.message (fault : TemplateFault) : String :=
  "malformed placeholder: " ++ fault.detail

namespace Placeholder

/-- The inside of the slot that stands for a placeholder. -/
def inside : Placeholder → String
  | .address resource => resource ++ ".address"
  | .codeId resource => resource ++ ".code_id"
  | .var key => "var:" ++ key

def text (placeholder : Placeholder) : String :=
  slotText placeholder.inside

def resource? : Placeholder → Option String
  | .address resource => some resource
  | .codeId resource => some resource
  | .var _ => none

def splitLastPoint? : List Char → Option (List Char × List Char)
  | [] => none
  | character :: rest =>
      match splitLastPoint? rest with
      | some (before, after) => some (character :: before, after)
      | none => if character = '.' then some ([], rest) else none

/-- Read the inside of a slot. What begins with `var:` names a variable; anything
else is a resource and, after the last point, a field of it. -/
def ofInside : List Char → Except TemplateFault Placeholder
  | ['v', 'a', 'r', ':'] => .error (.unnamedVariable "var:")
  | 'v' :: 'a' :: 'r' :: ':' :: key => .ok (.var (String.ofList key))
  | inside =>
      match splitLastPoint? inside with
      | none => .error (.missingField (String.ofList inside))
      | some ([], _) => .error (.unnamedResource (String.ofList inside))
      | some (resource, field) =>
          if field = "address".toList then
            .ok (.address (String.ofList resource))
          else if field = "code_id".toList then
            .ok (.codeId (String.ofList resource))
          else
            .error (.unknownField (String.ofList field) (String.ofList inside))

end Placeholder

end Rollout
