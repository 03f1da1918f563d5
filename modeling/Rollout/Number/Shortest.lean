import Rollout.Number.Double

/-!
Contract: the shortest decimal text of a double.

Owns:
- the decimal with the fewest digits among those that round to a given double,
  and among these the nearest one;
- the layout of that decimal as text.

Does not own: reading decimal text.
-/

namespace Rollout.Number

/-- A decimal number: `digits` times ten to the power `exponent`. -/
structure Decimal where
  digits : Nat
  exponent : Int
  deriving DecidableEq, Repr

/-! ## The shortest decimal -/

def decimalLength (value : Nat) : Nat :=
  (Nat.toDigits 10 value).length

/-- The exponent of the first digit of a positive double. The offset lies beyond
the first digit of the least positive double. -/
def leadingExponent (rank : Nat) : Int :=
  let offset : Nat := 330
  (decimalLength (unitsAt rank * powerOfTen offset / unitsPerOne) : Int) - 1 - offset

/-- A decimal in least positive doubles, as a numerator and a denominator. -/
def Decimal.units (decimal : Decimal) : Nat × Nat :=
  match decimal.exponent with
  | .ofNat exponent => (decimal.digits * powerOfTen exponent * unitsPerOne, 1)
  | .negSucc predecessor =>
      (decimal.digits * unitsPerOne, powerOfTen (predecessor + 1))

/-- Whether a decimal rounds to the double of a positive rank: it lies between
the midpoints to the neighbouring doubles, which themselves count exactly when
the rank is even. -/
def Decimal.roundsTo
    (rank : Nat)
    (decimal : Decimal) :
    Bool :=
  let (numerator, denominator) := decimal.units
  let below := (unitsAt (rank - 1) + unitsAt rank) * denominator
  let above := (unitsAt rank + unitsAt (rank + 1)) * denominator
  if rank % 2 = 0 then
    below ≤ 2 * numerator && 2 * numerator ≤ above
  else
    below < 2 * numerator && 2 * numerator < above

/-- The distance of a decimal from a double, times the decimal's denominator. -/
def Decimal.distance
    (rank : Nat)
    (decimal : Decimal) :
    Nat :=
  let (numerator, denominator) := decimal.units
  let value := unitsAt rank * denominator
  (numerator - value) + (value - numerator)

/-- The decimal with a given number of digits that rounds to a double, if one of
the two neighbours of the double on that decimal grid does. Of two neighbours
the nearer counts, of two equally near ones the one with an even last digit. -/
def decimalWithDigits?
    (rank : Nat)
    (leading : Int)
    (count : Nat) :
    Option Decimal :=
  let exponent := leading - (count : Int) + 1
  let floor :=
    match exponent with
    | .ofNat power => unitsAt rank / (powerOfTen power * unitsPerOne)
    | .negSucc predecessor => unitsAt rank * powerOfTen (predecessor + 1) / unitsPerOne
  let lower : Decimal := ⟨floor, exponent⟩
  let upper : Decimal := ⟨floor + 1, exponent⟩
  match lower.roundsTo rank, upper.roundsTo rank with
  | false, false => none
  | true, false => some lower
  | false, true => some upper
  | true, true =>
      let toLower := lower.distance rank
      let toUpper := upper.distance rank
      if toLower < toUpper ∨ (toLower = toUpper ∧ floor % 2 = 0) then
        some lower
      else
        some upper

/-- The shortest decimal that rounds to the double of a positive rank. A grid of
seventeen digits always has one. -/
def shortestDecimal (rank : Nat) : Decimal :=
  let leading := leadingExponent rank
  match (List.range 17).findSome? fun count =>
      decimalWithDigits? rank leading (count + 1) with
  | none => ⟨0, 0⟩
  | some decimal =>
      if decimal.digits = 10 then ⟨1, decimal.exponent + 1⟩ else decimal

/-! ## Layout -/

/-- The layout of doubles as text: values whose point falls within
`greatestPoint` digits to the right of the first digit, or up to `leastPoint`
places before it, are written without an exponent. -/
structure DoubleLayout where
  greatestPoint : Int
  leastPoint : Int
  exponentMark : String
  /-- What stands between the mark and an exponent that is not negative. -/
  positiveSign : String
  deriving DecidableEq, Repr

/-- Doubles are written without an exponent from `0.00001` up to sixteen
digits before the point, and with the mark `e` and a signed exponent otherwise. -/
def plainLayout : DoubleLayout :=
  ⟨16, -5, "e", "+"⟩

private def zeros (count : Nat) : List Char :=
  List.replicate count '0'

def Decimal.text
    (layout : DoubleLayout)
    (decimal : Decimal) :
    String :=
  let digits := Nat.toDigits 10 decimal.digits
  let point : Int := digits.length + decimal.exponent
  if 0 ≤ decimal.exponent ∧ point ≤ layout.greatestPoint then
    String.ofList (digits ++ zeros decimal.exponent.toNat ++ ['.', '0'])
  else if 0 < point ∧ point ≤ layout.greatestPoint then
    String.ofList
      (digits.take point.toNat ++ '.' :: digits.drop point.toNat)
  else if layout.leastPoint < point ∧ point ≤ 0 then
    String.ofList ('0' :: '.' :: zeros (-point).toNat ++ digits)
  else
    let fraction :=
      match digits.drop 1 with
      | [] => []
      | rest => '.' :: rest
    let sign := if 0 < point then layout.positiveSign else ""
    String.ofList (digits.take 1 ++ fraction) ++ layout.exponentMark ++ sign ++
      toString (point - 1)

/-- The shortest text of a double that reads back as the same double, with a
fraction or an exponent always. -/
def Double.text (value : Double) : String :=
  let absolute :=
    if value.magnitude.val = 0 then
      "0.0"
    else
      (shortestDecimal value.magnitude.val).text plainLayout
  if value.negative then "-" ++ absolute else absolute

end Rollout.Number
