import Rollout.Json.Basic
import Rollout.Number.Shortest

/-!
Contract: JSON values as text.

Owns:
- compact text, without blanks;
- indented text, two spaces a level, with empty arrays and objects in one piece;
- the escapes of strings: the quote, the backslash and the characters below
  U+0020, and no other character.

Does not own: reading text.
-/

namespace Rollout.Json

/-! ## Scalars -/

/-- The lower-case hexadecimal digits of a character below U+0020. -/
private def controlDigits (character : Char) : List Char :=
  [Nat.digitChar (character.toNat / 16), Nat.digitChar (character.toNat % 16)]

/-- A character inside a string. -/
def escapeCharacter (character : Char) : List Char :=
  if character = '"' then ['\\', '"']
  else if character = '\\' then ['\\', '\\']
  else if 0x20 ≤ character.toNat then [character]
  else if character.toNat = 0x08 then ['\\', 'b']
  else if character.toNat = 0x09 then ['\\', 't']
  else if character.toNat = 0x0a then ['\\', 'n']
  else if character.toNat = 0x0c then ['\\', 'f']
  else if character.toNat = 0x0d then ['\\', 'r']
  else '\\' :: 'u' :: '0' :: '0' :: controlDigits character

def quoteText (text : String) : List Char :=
  '"' :: text.toList.flatMap escapeCharacter ++ ['"']

def Number.characters : Number → List Char
  | .integer (.ofNat value) => Nat.toDigits 10 value
  | .integer (.negSucc predecessor) => '-' :: Nat.toDigits 10 (predecessor + 1)
  | .double value => value.text.toList

/-! ## Compact text -/

mutual

/-- A value without blanks. -/
def compactCharacters : Json → List Char
  | .null => "null".toList
  | .bool true => "true".toList
  | .bool false => "false".toList
  | .number value => value.characters
  | .string text => quoteText text
  | .array items => '[' :: compactItems items
  | .object members => '{' :: compactMembers members

/-- The items of an array, up to and with the closing bracket. -/
def compactItems : List Json → List Char
  | [] => [']']
  | [item] => compactCharacters item ++ [']']
  | item :: rest => compactCharacters item ++ ',' :: compactItems rest

/-- The members of an object, up to and with the closing brace. -/
def compactMembers : List (String × Json) → List Char
  | [] => ['}']
  | [(name, value)] => quoteText name ++ ':' :: compactCharacters value ++ ['}']
  | (name, value) :: rest =>
      quoteText name ++ ':' :: compactCharacters value ++ ',' :: compactMembers rest

end

def compact (value : Json) : String :=
  String.ofList (compactCharacters value)

/-! ## Indented text -/

/-- A line break and the indentation of a level. -/
def lineBreak (level : Nat) : List Char :=
  '\n' :: List.replicate (2 * level) ' '

mutual

/-- A value at a level of indentation. -/
def prettyCharacters : Nat → Json → List Char
  | _, .array [] => ['[', ']']
  | _, .object [] => ['{', '}']
  | level, .array (item :: rest) => '[' :: prettyItems level (item :: rest)
  | level, .object (member :: rest) => '{' :: prettyMembers level (member :: rest)
  | _, .null => "null".toList
  | _, .bool true => "true".toList
  | _, .bool false => "false".toList
  | _, .number value => value.characters
  | _, .string text => quoteText text

/-- The items of an array at a level, one a line, up to and with the closing
bracket. -/
def prettyItems : Nat → List Json → List Char
  | level, [] => lineBreak level ++ [']']
  | level, [item] =>
      lineBreak (level + 1) ++ prettyCharacters (level + 1) item ++
        lineBreak level ++ [']']
  | level, item :: rest =>
      lineBreak (level + 1) ++ prettyCharacters (level + 1) item ++
        ',' :: prettyItems level rest

/-- The members of an object at a level, one a line, up to and with the closing
brace. -/
def prettyMembers : Nat → List (String × Json) → List Char
  | level, [] => lineBreak level ++ ['}']
  | level, [(name, value)] =>
      lineBreak (level + 1) ++ quoteText name ++ ':' :: ' ' ::
        prettyCharacters (level + 1) value ++ lineBreak level ++ ['}']
  | level, (name, value) :: rest =>
      lineBreak (level + 1) ++ quoteText name ++ ':' :: ' ' ::
        prettyCharacters (level + 1) value ++ ',' :: prettyMembers level rest

end

/-- A value as indented text, without a line break at the end. -/
def pretty (value : Json) : String :=
  String.ofList (prettyCharacters 0 value)

end Rollout.Json
