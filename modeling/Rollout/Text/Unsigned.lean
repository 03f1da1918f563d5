/-!
Contract: unsigned whole numbers as decimal text.

Owns:
- the value of a digit and of a digit sequence;
- reading a text as a number below a bound, with the reason of a refusal.

Does not own: numbers with a sign other than a leading plus, fractions and
exponents.
-/

namespace Rollout.Text

/-! ## Digits -/

def isDigit (character : Char) : Bool :=
  '0' ≤ character && character ≤ '9'

def digitValue (digit : Char) : Nat :=
  digit.toNat - '0'.toNat

def digitsValue (digits : List Char) : Nat :=
  digits.foldl (fun value digit => value * 10 + digitValue digit) 0

/-! ## Reading -/

inductive UnsignedFault where
  | empty
  | invalidDigit
  | tooLarge
  deriving DecidableEq, Repr

def UnsignedFault.message : UnsignedFault → String
  | .empty => "cannot parse integer from empty string"
  | .invalidDigit => "invalid digit found in string"
  | .tooLarge => "number too large to fit in target type"

/-- Continue a number below `bound` with further digits. The first character
that is no digit, or the first digit that leads out of the range, decides. -/
def continueUnsigned
    (bound : Nat) :
    Nat → List Char → Except UnsignedFault Nat
  | value, [] => .ok value
  | value, character :: rest =>
      if isDigit character then
        if value * 10 + digitValue character < bound then
          continueUnsigned bound (value * 10 + digitValue character) rest
        else
          .error .tooLarge
      else
        .error .invalidDigit

/-- Read a text as an unsigned number below `bound`. One plus sign may stand
before the digits, but not alone. -/
def readUnsigned
    (bound : Nat)
    (text : String) :
    Except UnsignedFault Nat :=
  match text.toList with
  | [] => .error .empty
  | '+' :: first :: rest => continueUnsigned bound 0 (first :: rest)
  | characters => continueUnsigned bound 0 characters

end Rollout.Text
