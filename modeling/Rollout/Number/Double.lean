/-!
Contract: finite binary floating-point numbers of 64 bits, in exact whole-number
arithmetic.

Owns:
- a finite double as a sign and the rank of its absolute value;
- rounding a quotient to the nearest double, a tie to the even one;
- the double that a decimal significand and exponent stand for.

Does not own: infinities and values that are not numbers, and decimal text.
-/

namespace Rollout.Number

def powerOfTwo (exponent : Nat) : Nat :=
  Nat.pow 2 exponent

def powerOfTen (exponent : Nat) : Nat :=
  Nat.pow 10 exponent

/-- The number of doubles from one power of two up to the next, `2 ^ 52`. -/
abbrev binadeSize : Nat :=
  4503599627370496

/-- The number of finite doubles that are not negative. -/
abbrev magnitudeCount : Nat :=
  2047 * binadeSize

/-- The ranks of the finite doubles that are not negative, in increasing order:
rank `0` is zero and rank `1` is the least positive double. The rank is the bit
pattern of the exponent and fraction fields. -/
abbrev Magnitude := Fin magnitudeCount

/-- A finite double. -/
structure Double where
  negative : Bool
  magnitude : Magnitude
  deriving DecidableEq, Repr

/-! ## Ranks and values -/

/-- The value at a rank, counted in least positive doubles. Up to rank `2 ^ 53`
the doubles are evenly spaced; after that the spacing doubles every
`binadeSize` ranks. -/
def unitsAt (rank : Nat) : Nat :=
  if rank / binadeSize = 0 then
    rank
  else
    (binadeSize + rank % binadeSize) * powerOfTwo (rank / binadeSize - 1)

/-- How many least positive doubles make one. -/
def unitsPerOne : Nat :=
  powerOfTwo 1074

/-- The whole number nearest to a quotient, of two equally near ones the even
one. -/
def roundHalfEven
    (numerator denominator : Nat) :
    Nat :=
  let quotient := numerator / denominator
  let remainder := numerator % denominator
  if 2 * remainder < denominator then
    quotient
  else if 2 * remainder = denominator ∧ quotient % 2 = 0 then
    quotient
  else
    quotient + 1

/-- The rank of the double nearest to a quotient of least positive doubles, of
two equally near ones the one of even rank. The rank may lie beyond the finite
doubles. -/
def rankOfUnits
    (numerator denominator : Nat) :
    Nat :=
  let shift := (numerator / denominator).log2 - 52
  shift * binadeSize + roundHalfEven numerator (denominator * powerOfTwo shift)

def Magnitude.ofRank? (rank : Nat) : Option Magnitude :=
  if finite : rank < magnitudeCount then
    some ⟨rank, finite⟩
  else
    none

/-! ## Decimal values -/

/-- The rank of the double nearest to a power of ten. -/
def rankOfPowerOfTen (exponent : Nat) : Nat :=
  rankOfUnits (powerOfTen exponent * unitsPerOne) 1

def greatestPowerOfTen : Nat :=
  308

/-- The rank of a double multiplied by a power of ten, rounded. -/
def timesPowerOfTen
    (rank exponent : Nat) :
    Nat :=
  rankOfUnits (unitsAt rank * unitsAt (rankOfPowerOfTen exponent)) unitsPerOne

/-- The rank of a double divided by a power of ten, rounded. -/
def overPowerOfTen
    (rank exponent : Nat) :
    Nat :=
  rankOfUnits (unitsAt rank * unitsPerOne) (unitsAt (rankOfPowerOfTen exponent))

/-- The magnitude that a decimal significand below `2 ^ 64` with an exponent is
read as. The significand is rounded first and scaled by the power of ten after
that. A negative exponent is taken in steps of at most `greatestPowerOfTen`; two
whole steps leave nothing of any significand. There is no magnitude when the
value lies beyond the finite doubles. -/
def Magnitude.ofDecimal?
    (significand : Nat) :
    Int → Option Magnitude
  | .ofNat exponent =>
      let rank := rankOfUnits (significand * unitsPerOne) 1
      if exponent ≤ greatestPowerOfTen then
        Magnitude.ofRank? (timesPowerOfTen rank exponent)
      else if significand = 0 then
        Magnitude.ofRank? 0
      else
        none
  | .negSucc predecessor =>
      let exponent := predecessor + 1
      let rank := rankOfUnits (significand * unitsPerOne) 1
      if exponent ≤ greatestPowerOfTen then
        Magnitude.ofRank? (overPowerOfTen rank exponent)
      else if exponent ≤ 2 * greatestPowerOfTen then
        Magnitude.ofRank?
          (overPowerOfTen (overPowerOfTen rank greatestPowerOfTen)
            (exponent - greatestPowerOfTen))
      else
        Magnitude.ofRank? 0

end Rollout.Number
