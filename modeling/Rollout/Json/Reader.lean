import Rollout.Json.Basic
import Rollout.Json.Tree
import Rollout.Text.Unsigned
import Rollout.Text.Utf8

/-!
Contract: reading JSON text.

Owns:
- the grammar, as a reader from characters to written values;
- the choice of values: exact whole numbers, doubles for the rest, joined
  surrogates, ordered members, and at most `depthLimit` nested arrays and
  objects.

Does not own: the rounding of decimal numbers.
-/

namespace Rollout.Json

/-! ## Pieces -/

/-- A reader of a piece at the front of a text gives the piece and the rest. -/
abbrev PieceReader (α : Type) :=
  List Char → Option (α × List Char)

/-- Whether a character may stand between the pieces of a text. -/
def isSpace (character : Char) : Bool :=
  character == ' ' || character == '\n' || character == '\t' || character == '\r'

/-- Leave out the spaces at the front. -/
def skipSpaces (text : List Char) : List Char :=
  text.dropWhile isSpace

def hexValue? (character : Char) : Option Nat :=
  if '0' ≤ character ∧ character ≤ '9' then
    some (character.toNat - '0'.toNat)
  else if 'a' ≤ character ∧ character ≤ 'f' then
    some (character.toNat - 'a'.toNat + 10)
  else if 'A' ≤ character ∧ character ≤ 'F' then
    some (character.toNat - 'A'.toNat + 10)
  else
    none

/-- The code unit written with four hexadecimal digits. -/
def hexUnit?
    (first second third fourth : Char) :
    Option Nat := do
  let first ← hexValue? first
  let second ← hexValue? second
  let third ← hexValue? third
  let fourth ← hexValue? fourth
  return ((first * 16 + second) * 16 + third) * 16 + fourth

/-- The character that a backslash with one letter stands for. -/
def escapedCharacter? : Char → Option Char
  | '"' => some '"'
  | '\\' => some '\\'
  | '/' => some '/'
  | 'b' => some '\x08'
  | 'f' => some '\x0c'
  | 'n' => some '\n'
  | 'r' => some '\r'
  | 't' => some '\t'
  | _ => none

/-- Read a string after its opening quote. -/
def readUnits : PieceReader (List TextUnit)
  | [] => none
  | '"' :: rest => some ([], rest)
  | '\\' :: 'u' :: first :: second :: third :: fourth :: rest =>
      match hexUnit? first second third fourth, readUnits rest with
      | some unit, some (units, afterString) =>
          some (.escaped unit :: units, afterString)
      | _, _ => none
  | '\\' :: letter :: rest =>
      match escapedCharacter? letter, readUnits rest with
      | some character, some (units, afterString) =>
          some (.character character :: units, afterString)
      | _, _ => none
  | character :: rest =>
      if character.toNat < 0x20 then
        none
      else
        match readUnits rest with
        | some (units, afterString) =>
            some (.character character :: units, afterString)
        | none => none

/-! ## Numbers -/

/-- Read the digits of a whole number, which has no leading zero. -/
def readWhole : PieceReader (List Char)
  | '0' :: rest =>
      match rest with
      | [] => some (['0'], rest)
      | next :: _ => if Text.isDigit next then none else some (['0'], rest)
  | text =>
      match text.takeWhile Text.isDigit with
      | [] => none
      | digits => some (digits, text.dropWhile Text.isDigit)

def readDigits (text : List Char) : Option (List Char × List Char) :=
  match text.takeWhile Text.isDigit with
  | [] => none
  | digits => some (digits, text.dropWhile Text.isDigit)

def readFraction : PieceReader (Option (List Char))
  | '.' :: rest => (readDigits rest).map fun (digits, rest) => (some digits, rest)
  | text => some (none, text)

/-- Read an exponent after its mark. -/
def readExponentDigits : PieceReader (Bool × List Char)
  | '+' :: rest => (readDigits rest).map fun (digits, rest) => ((false, digits), rest)
  | '-' :: rest => (readDigits rest).map fun (digits, rest) => ((true, digits), rest)
  | text => (readDigits text).map fun (digits, rest) => ((false, digits), rest)

def readExponent : PieceReader (Option (Bool × List Char))
  | 'e' :: rest => (readExponentDigits rest).map fun (exponent, rest) => (some exponent, rest)
  | 'E' :: rest => (readExponentDigits rest).map fun (exponent, rest) => (some exponent, rest)
  | text => some (none, text)

/-- Read a number after its sign. -/
def readUnsignedNumeral
    (negative : Bool)
    (text : List Char) :
    Option (Numeral × List Char) := do
  let (whole, text) ← readWhole text
  let (fraction, text) ← readFraction text
  let (exponent, text) ← readExponent text
  return (⟨negative, whole, fraction, exponent⟩, text)

def readNumeral : PieceReader Numeral
  | '-' :: rest => readUnsignedNumeral true rest
  | text => readUnsignedNumeral false text

/-! ## Written values -/

mutual

/-- Read a written value. The first argument bounds the steps. -/
def readTree : Nat → PieceReader Tree
  | 0, _ => none
  | steps + 1, text =>
      match skipSpaces text with
      | 'n' :: 'u' :: 'l' :: 'l' :: rest => some (.null, rest)
      | 't' :: 'r' :: 'u' :: 'e' :: rest => some (.bool true, rest)
      | 'f' :: 'a' :: 'l' :: 's' :: 'e' :: rest => some (.bool false, rest)
      | '"' :: rest => (readUnits rest).map fun (units, rest) => (.string units, rest)
      | '[' :: rest =>
          match skipSpaces rest with
          | ']' :: rest => some (.array [], rest)
          | rest => (readItems steps rest).map fun (items, rest) => (.array items, rest)
      | '{' :: rest =>
          match skipSpaces rest with
          | '}' :: rest => some (.object [], rest)
          | rest =>
              (readMembers steps rest).map fun (members, rest) => (.object members, rest)
      | text => (readNumeral text).map fun (numeral, rest) => (.number numeral, rest)

/-- Read one item or more, up to and with the closing bracket. -/
def readItems : Nat → PieceReader (List Tree)
  | 0, _ => none
  | steps + 1, text =>
      match readTree steps text with
      | none => none
      | some (item, rest) =>
          match skipSpaces rest with
          | ']' :: rest => some ([item], rest)
          | ',' :: rest =>
              (readItems steps rest).map fun (items, rest) => (item :: items, rest)
          | _ => none

/-- Read one member or more, up to and with the closing brace. -/
def readMembers : Nat → PieceReader (List (List TextUnit × Tree))
  | 0, _ => none
  | steps + 1, text =>
      match skipSpaces text with
      | '"' :: rest =>
          match readUnits rest with
          | none => none
          | some (name, rest) =>
              match skipSpaces rest with
              | ':' :: rest =>
                  match readTree steps rest with
                  | none => none
                  | some (value, rest) =>
                      match skipSpaces rest with
                      | '}' :: rest => some ([(name, value)], rest)
                      | ',' :: rest =>
                          (readMembers steps rest).map fun (members, rest) =>
                            ((name, value) :: members, rest)
                      | _ => none
              | _ => none
      | _ => none

end

/-- Read a text that holds one written value and otherwise spaces. Every step
but the first of a bracket takes a character away, so two steps a character are
enough. -/
def Tree.ofCharacters? (text : List Char) : Option Tree :=
  match readTree (2 * text.length + 2) text with
  | some (tree, rest) => if (skipSpaces rest).isEmpty then some tree else none
  | none => none

/-! ## The choice of values -/

/-- Significands are collected below this bound. -/
def significandBound : Nat :=
  UInt64.size

/-- The greatest whole number whose negation is kept exactly. -/
def greatestNegated : Nat :=
  9223372036854775808

/-- Collect digits into a significand as long as it stays below the bound. The
result is the significand and the digits from the first one that does not fit. -/
def collectDigits : Nat → List Char → Nat × List Char
  | significand, [] => (significand, [])
  | significand, digit :: rest =>
      if significand * 10 + Text.digitValue digit < significandBound then
        collectDigits (significand * 10 + Text.digitValue digit) rest
      else
        (significand, digit :: rest)

namespace Numeral

/-- The significand and the decimal exponent of a number, from as many digits of
its whole part and then of its fraction as fit. Digits of the whole part that do
not fit count in the exponent, those of the fraction not at all. -/
def decimal (numeral : Numeral) : Nat × Int :=
  let (significand, left) := collectDigits 0 numeral.whole
  let fraction := numeral.fraction.getD []
  let (significand, unread) := collectDigits significand fraction
  let shift : Int := (left.length : Int) - (fraction.length - unread.length : Nat)
  match numeral.exponent with
  | none => (significand, shift)
  | some (false, digits) => (significand, shift + Text.digitsValue digits)
  | some (true, digits) => (significand, shift - Text.digitsValue digits)

def double? (numeral : Numeral) : Option Number :=
  let (significand, exponent) := numeral.decimal
  (Rollout.Number.Magnitude.ofDecimal? significand exponent).map fun magnitude =>
    .double ⟨numeral.negative, magnitude⟩

/-- The value of a number, if it does not lie beyond the doubles. A number
without fraction and exponent is a whole number if it is in range; minus zero is
a double. -/
def number? (numeral : Numeral) : Option Number :=
  match numeral.fraction, numeral.exponent with
  | none, none =>
      let value := Text.digitsValue numeral.whole
      if numeral.negative then
        if 0 < value ∧ value ≤ greatestNegated then
          some (.integer (-(value : Int)))
        else
          numeral.double?
      else if value < UInt64.size then
        some (.integer value)
      else
        numeral.double?
  | _, _ => numeral.double?

end Numeral

/-- How many arrays and objects may be nested. -/
def depthLimit : Nat :=
  127

mutual

/-- The value of a written value, with at most the given number of nested arrays
and objects. -/
def Tree.value? : Nat → Tree → Option Json
  | _, .null => some .null
  | _, .bool value => some (.bool value)
  | _, .number numeral => numeral.number?.map .number
  | _, .string units => (joinUnits? units).map fun text => .string (String.ofList text)
  | 0, .array _ => none
  | 0, .object _ => none
  | depth + 1, .array items => (itemValues? depth items).map .array
  | depth + 1, .object members =>
      (memberValues? depth members).map fun values => .object (orderMembers values)

def itemValues? : Nat → List Tree → Option (List Json)
  | _, [] => some []
  | depth, item :: rest =>
      match item.value? depth, itemValues? depth rest with
      | some value, some values => some (value :: values)
      | _, _ => none

def memberValues? : Nat → List (List TextUnit × Tree) → Option (List (String × Json))
  | _, [] => some []
  | depth, (name, item) :: rest =>
      match joinUnits? name, item.value? depth, memberValues? depth rest with
      | some name, some value, some values => some ((String.ofList name, value) :: values)
      | _, _, _ => none

end

def ofCharacters? (text : List Char) : Option Json :=
  match Tree.ofCharacters? text with
  | some tree => tree.value? depthLimit
  | none => none

def ofText? (text : String) : Option Json :=
  ofCharacters? text.toList

/-- The value of JSON text in UTF-8. -/
def ofBytes? (bytes : List UInt8) : Option Json :=
  (Text.decodeUtf8? bytes).bind ofText?

end Rollout.Json
