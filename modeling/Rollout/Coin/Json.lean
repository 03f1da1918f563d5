import Rollout.Coin
import Rollout.Json.Printer
import Rollout.Json.Reader

/-!
Contract: coins in JSON.

Owns:
- a coin list as compact JSON text, with amounts as numbers;
- reading one coin from JSON text, exactly as it is written.

Does not own: JSON values, whose numbers are too narrow for an amount.
-/

namespace Rollout.Coin

open Rollout.Json

/-! ## Writing -/

/-- A coin as a JSON object. -/
def jsonCharacters (coin : Coin) : List Char :=
  "\x7b\"amount\":".toList ++ Nat.toDigits 10 coin.amount.val ++
    ",\"denom\":".toList ++ quoteText coin.denom ++ ['}']

/-- A coin list as compact JSON text. -/
def listJson (coins : List Coin) : String :=
  "[" ++
    String.intercalate "," (coins.map fun coin => String.ofList coin.jsonCharacters) ++
    "]"

/-! ## Reading -/

/-- The amount of a written value: a whole number of 128 bits without sign,
fraction and exponent. -/
def amountOfTree? : Tree → Option (Fin amountBound)
  | .number ⟨false, whole, none, none⟩ =>
      if inRange : Text.digitsValue whole < amountBound then
        some ⟨Text.digitsValue whole, inRange⟩
      else
        none
  | _ => none

def denomOfTree? : Tree → Option String
  | .string units => (joinUnits? units).map String.ofList
  | _ => none

/-- Read the members of a coin object, after some of the fields. A field that
stands twice is refused; members of other names do not count, but every name has
to be well formed. -/
def ofMembers? :
    Option (Fin amountBound) → Option String → List (List TextUnit × Tree) → Option Coin
  | some amount, some denom, [] => some ⟨amount, denom⟩
  | _, _, [] => none
  | amount, denom, (name, value) :: rest =>
      match (joinUnits? name).map String.ofList with
      | none => none
      | some "amount" =>
          match amount, amountOfTree? value with
          | none, some read => ofMembers? (some read) denom rest
          | _, _ => none
      | some "denom" =>
          match denom, denomOfTree? value with
          | none, some read => ofMembers? amount (some read) rest
          | _, _ => none
      | some _ => ofMembers? amount denom rest

/-- Read a coin from a written value: an object, or an array of the two fields in
order. -/
def ofTree? : Tree → Option Coin
  | .object members => ofMembers? none none members
  | .array [amount, denom] =>
      match amountOfTree? amount, denomOfTree? denom with
      | some amount, some denom => some ⟨amount, denom⟩
      | _, _ => none
  | _ => none

def ofJsonText? (text : String) : Option Coin :=
  (Tree.ofCharacters? text.toList).bind ofTree?

end Rollout.Coin
