import Rollout.Text.Alphanumeric.Table

/-!
Contract: characters that are letters or numbers.

Owns: the test of one character.

Does not own: the ranges, which `Rollout.Text.Alphanumeric.Table` holds.
-/

namespace Rollout.Text

/-- Whether a character has the Unicode property `Alphabetic` or is a number. -/
def isAlphanumeric (character : Char) : Bool :=
  alphanumericRanges.any fun (first, last) =>
    first ≤ character.toNat && character.toNat ≤ last

end Rollout.Text
