import Rollout.Json.Members
import Rollout.Number.Double

/-!
Contract: JSON values.

Owns:
- the values, with whole numbers exact and every other number a double;
- decidable equality of values;
- access to the parts of a value and the replacement of a member.

Does not own: JSON text.
-/

namespace Rollout

/-- A JSON number. Whole numbers from `-2 ^ 63` to `2 ^ 64 - 1` are kept exactly. -/
inductive Json.Number where
  | integer (value : Int)
  | double (value : Number.Double)
  deriving DecidableEq, Repr

/-- A JSON value. The members of an object stand in the order of their names. -/
inductive Json where
  | null
  | bool (value : Bool)
  | number (value : Json.Number)
  | string (text : String)
  | array (items : List Json)
  | object (members : List (String × Json))
  deriving Repr

namespace Json

/-! ## Equality -/

mutual

def decideEq : (left right : Json) → Decidable (left = right)
  | .null, .null => isTrue rfl
  | .bool left, .bool right =>
      if equal : left = right then isTrue (by rw [equal])
      else isFalse (by simp [equal])
  | .number left, .number right =>
      if equal : left = right then isTrue (by rw [equal])
      else isFalse (by simp [equal])
  | .string left, .string right =>
      if equal : left = right then isTrue (by rw [equal])
      else isFalse (by simp [equal])
  | .array left, .array right =>
      match decideEqItems left right with
      | isTrue equal => isTrue (by rw [equal])
      | isFalse different => isFalse (by simp [different])
  | .object left, .object right =>
      match decideEqMembers left right with
      | isTrue equal => isTrue (by rw [equal])
      | isFalse different => isFalse (by simp [different])
  | .null, .bool _ | .null, .number _ | .null, .string _ | .null, .array _
  | .null, .object _ | .bool _, .null | .bool _, .number _ | .bool _, .string _
  | .bool _, .array _ | .bool _, .object _ | .number _, .null | .number _, .bool _
  | .number _, .string _ | .number _, .array _ | .number _, .object _
  | .string _, .null | .string _, .bool _ | .string _, .number _
  | .string _, .array _ | .string _, .object _ | .array _, .null | .array _, .bool _
  | .array _, .number _ | .array _, .string _ | .array _, .object _
  | .object _, .null | .object _, .bool _ | .object _, .number _
  | .object _, .string _ | .object _, .array _ => isFalse (by simp)

def decideEqItems : (left right : List Json) → Decidable (left = right)
  | [], [] => isTrue rfl
  | [], _ :: _ | _ :: _, [] => isFalse (by simp)
  | left :: lefts, right :: rights =>
      match decideEq left right, decideEqItems lefts rights with
      | isTrue equal, isTrue equals => isTrue (by rw [equal, equals])
      | isFalse different, _ => isFalse (by simp [different])
      | _, isFalse different => isFalse (by simp [different])

def decideEqMembers : (left right : List (String × Json)) → Decidable (left = right)
  | [], [] => isTrue rfl
  | [], _ :: _ | _ :: _, [] => isFalse (by simp)
  | (leftName, left) :: lefts, (rightName, right) :: rights =>
      if sameName : leftName = rightName then
        match decideEq left right, decideEqMembers lefts rights with
        | isTrue equal, isTrue equals => isTrue (by rw [sameName, equal, equals])
        | isFalse different, _ => isFalse (by simp [different])
        | _, isFalse different => isFalse (by simp [different])
      else
        isFalse (by simp [sameName])

end

instance : DecidableEq Json :=
  decideEq

/-! ## Parts -/

/-- An object with the given members, in any order. -/
def ofMembers (members : List (String × Json)) : Json :=
  .object (orderMembers members)

def ofNat (value : Nat) : Json :=
  .number (.integer value)

def member?
    (value : Json)
    (name : String) :
    Option Json :=
  match value with
  | .object members => members.lookup name
  | _ => none

def text? : Json → Option String
  | .string text => some text
  | _ => none

def items? : Json → Option (List Json)
  | .array items => some items
  | _ => none

def members? : Json → Option (List (String × Json))
  | .object members => some members
  | _ => none

/-- An unsigned whole number of 64 bits. -/
def unsigned? : Json → Option UInt64
  | .number (.integer (.ofNat value)) =>
      if value < UInt64.size then some (UInt64.ofNat value) else none
  | _ => none

end Json

end Rollout
