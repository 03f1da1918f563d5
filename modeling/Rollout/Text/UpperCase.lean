import Rollout.Text.UpperCase.Table

/-!
Contract: the upper-case form of a text.

Owns: the full upper-case form of one character, and of a text character by
character.

Does not own: the mapping tables, which `Rollout.Text.UpperCase.Table` holds.
-/

namespace Rollout.Text

namespace UpperCaseRun

def contains
    (run : UpperCaseRun)
    (point : Nat) :
    Bool :=
  run.first ≤ point && point ≤ run.last && (point - run.first) % run.step == 0

end UpperCaseRun

/-- The code points of the upper-case form of one code point; a code point
without an upper-case form stands for itself. -/
def upperCasePoints (point : Nat) : List Nat :=
  match upperCaseExpansions.lookup point with
  | some points => points
  | none =>
      match upperCaseRuns.find? (·.contains point) with
      | some run => [(point + run.shift).toNat]
      | none => [point]

def upperCase (text : String) : String :=
  String.ofList
    (text.toList.flatMap fun character =>
      (upperCasePoints character.toNat).map Char.ofNat)

end Rollout.Text
