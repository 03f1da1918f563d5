/-!
Contract: the standard base-64 form of bytes.

Owns: the alphabet, groups of three bytes as four characters, and the padding
that fills the last group.

Does not own: reading base-64 text.
-/

namespace Rollout.Text

def base64Alphabet : List Char :=
  "ABCDEFGHIJKLMNOPQRSTUVWXYZabcdefghijklmnopqrstuvwxyz0123456789+/".toList

def base64Digit (digit : Nat) : Char :=
  base64Alphabet.getD digit '='

/-- The characters of a byte sequence in base 64. -/
def base64Characters : List UInt8 → List Char
  | [] => []
  | [first] =>
      let bits := first.toNat * 16
      [base64Digit (bits / 64), base64Digit (bits % 64), '=', '=']
  | [first, second] =>
      let bits := (first.toNat * 256 + second.toNat) * 4
      [base64Digit (bits / 4096), base64Digit (bits / 64 % 64),
        base64Digit (bits % 64), '=']
  | first :: second :: third :: rest =>
      let bits := (first.toNat * 256 + second.toNat) * 256 + third.toNat
      base64Digit (bits / 262144) :: base64Digit (bits / 4096 % 64) ::
        base64Digit (bits / 64 % 64) :: base64Digit (bits % 64) ::
        base64Characters rest

def base64 (bytes : List UInt8) : String :=
  String.ofList (base64Characters bytes)

end Rollout.Text
