import Rollout.Json.Basic
import Rollout.Placeholder

/-!
Contract: templates, which are texts and JSON values with slots.

Owns:
- the pieces of a text: literal parts and slots;
- the placeholders of a text and of a value, in the order in which they are met.

Does not own: what placeholders stand for. Member names are no templates.
-/

namespace Rollout

inductive Piece where
  | literal (text : String)
  | slot (placeholder : Placeholder)
  deriving DecidableEq, Repr

namespace Piece

def text : Piece → String
  | .literal text => text
  | .slot placeholder => placeholder.text

def placeholder? : Piece → Option Placeholder
  | .literal _ => none
  | .slot placeholder => some placeholder

/-- The literal piece of characters that were collected last first; nothing if
there are none. -/
def ofCollected : List Char → List Piece
  | [] => []
  | collected => [.literal (String.ofList collected.reverse)]

end Piece

namespace Template

/-! ## Pieces -/

mutual

/-- Read the pieces after characters of a literal part, which are collected last
first. The template is named in the fault of a slot without end. -/
def piecesAfterLiteral
    (template : String)
    (collected : List Char) :
    List Char → Except TemplateFault (List Piece)
  | [] => .ok (Piece.ofCollected collected)
  | '$' :: '{' :: rest =>
      match piecesAfterInside template [] rest with
      | .ok pieces => .ok (Piece.ofCollected collected ++ pieces)
      | .error fault => .error fault
  | character :: rest => piecesAfterLiteral template (character :: collected) rest

/-- Read the pieces after characters of the inside of a slot, which are collected
last first. -/
def piecesAfterInside
    (template : String)
    (collected : List Char) :
    List Char → Except TemplateFault (List Piece)
  | [] => .error (.unterminated template)
  | '}' :: rest =>
      match Placeholder.ofInside collected.reverse with
      | .error fault => .error fault
      | .ok placeholder =>
          match piecesAfterLiteral template [] rest with
          | .ok pieces => .ok (.slot placeholder :: pieces)
          | .error fault => .error fault
  | character :: rest => piecesAfterInside template (character :: collected) rest

end

/-- The pieces of a text. A slot reaches from `$` and an opening brace to the
first closing brace after them. -/
def pieces (text : String) : Except TemplateFault (List Piece) :=
  piecesAfterLiteral text [] text.toList

def opensSlot : List Char → Bool
  | [] => false
  | '$' :: '{' :: _ => true
  | _ :: rest => opensSlot rest

/-! ## Placeholders -/

def placeholdersOfText (text : String) : Except TemplateFault (List Placeholder) :=
  match pieces text with
  | .ok pieces => .ok (pieces.filterMap Piece.placeholder?)
  | .error fault => .error fault

/-- The placeholders of two parts one after the other; a fault of the first part
counts before one of the second. -/
def join
    (first rest : Except TemplateFault (List Placeholder)) :
    Except TemplateFault (List Placeholder) :=
  match first with
  | .error fault => .error fault
  | .ok found =>
      match rest with
      | .error fault => .error fault
      | .ok others => .ok (found ++ others)

mutual

/-- The placeholders of all strings of a value. -/
def placeholders : Json → Except TemplateFault (List Placeholder)
  | .string text => placeholdersOfText text
  | .array items => placeholdersOfItems items
  | .object members => placeholdersOfMembers members
  | .null | .bool _ | .number _ => .ok []

def placeholdersOfItems : List Json → Except TemplateFault (List Placeholder)
  | [] => .ok []
  | item :: rest => join (placeholders item) (placeholdersOfItems rest)

def placeholdersOfMembers :
    List (String × Json) → Except TemplateFault (List Placeholder)
  | [] => .ok []
  | (_, value) :: rest => join (placeholders value) (placeholdersOfMembers rest)

end

end Template

end Rollout
