/-!
Contract: JSON text as it is written, before values are chosen.

Owns:
- the tree of a text, with numbers as their digits, strings with escaped code
  units, and objects with every member that is written, repeated names too;
- the joining of code units to characters.

Does not own: the limits that a value has to keep, such as the range of numbers,
the depth of nesting, and paired surrogates.
-/

namespace Rollout.Json

/-- A part of a written string: a character, or a code unit of UTF-16 that is
written with its number. -/
inductive TextUnit where
  | character (value : Char)
  | escaped (unit : Nat)
  deriving DecidableEq, Repr

structure Numeral where
  negative : Bool
  whole : List Char
  /-- The digits after the point. -/
  fraction : Option (List Char)
  /-- Whether the exponent is negative, and its digits. -/
  exponent : Option (Bool × List Char)
  deriving DecidableEq, Repr

inductive Tree where
  | null
  | bool (value : Bool)
  | number (numeral : Numeral)
  | string (units : List TextUnit)
  | array (items : List Tree)
  | object (members : List (List TextUnit × Tree))
  deriving Repr

/-- Join the parts of a written string. A leading surrogate has to stand right
before a trailing one, which has to stand right after a leading one. -/
def joinUnits? : List TextUnit → Option (List Char)
  | [] => some []
  | .character value :: rest => (joinUnits? rest).map (value :: ·)
  | .escaped unit :: rest =>
      if unit < 0xd800 ∨ 0xe000 ≤ unit then
        (joinUnits? rest).map (Char.ofNat unit :: ·)
      else
        match rest with
        | .escaped trailing :: afterPair =>
            if unit < 0xdc00 ∧ 0xdc00 ≤ trailing ∧ trailing < 0xe000 then
              let point := 0x10000 + (unit - 0xd800) * 0x400 + (trailing - 0xdc00)
              (joinUnits? afterPair).map (Char.ofNat point :: ·)
            else
              none
        | _ => none

end Rollout.Json
