/-!
Contract: reading UTF-8 bytes as text.

Owns:
- the range that each byte of a character may have;
- a strict reading that refuses bytes which are not UTF-8;
- a lenient reading that puts U+FFFD in place of every maximal part of a
  character that is not continued as it should be;
- a reading of the lines before the first ill-formed one.

Does not own: writing text as bytes, or byte order marks, which are characters
like any other.
-/

namespace Rollout.Text

/-- What the first byte of a character says about the bytes that follow: how
many there are, the least and the greatest value of the next one, and the bits
that the first byte contributes. -/
structure Utf8Lead where
  tails : Nat
  least : Nat
  greatest : Nat
  bits : Nat
  deriving DecidableEq, Repr

/-- Read a byte as the first one of a character. The narrow ranges of the second
byte exclude overlong forms, surrogates and values above U+10FFFF. -/
def Utf8Lead.ofByte? (byte : Nat) : Option Utf8Lead :=
  if byte ≤ 0x7f then
    some ⟨0, 0x80, 0xbf, byte⟩
  else if 0xc2 ≤ byte ∧ byte ≤ 0xdf then
    some ⟨1, 0x80, 0xbf, byte - 0xc0⟩
  else if byte = 0xe0 then
    some ⟨2, 0xa0, 0xbf, byte - 0xe0⟩
  else if byte = 0xed then
    some ⟨2, 0x80, 0x9f, byte - 0xe0⟩
  else if 0xe1 ≤ byte ∧ byte ≤ 0xef then
    some ⟨2, 0x80, 0xbf, byte - 0xe0⟩
  else if byte = 0xf0 then
    some ⟨3, 0x90, 0xbf, byte - 0xf0⟩
  else if 0xf1 ≤ byte ∧ byte ≤ 0xf3 then
    some ⟨3, 0x80, 0xbf, byte - 0xf0⟩
  else if byte = 0xf4 then
    some ⟨3, 0x80, 0x8f, byte - 0xf0⟩
  else
    none

/-- The characters of a byte sequence, with `none` for every part that is not
UTF-8. The first argument is the character being read, if there is one: the
bytes it still needs, the range of the next byte, and the bits read so far. A
byte that cannot continue the character ends it as an ill-formed part and is
then read as a first byte itself. -/
def utf8Characters : Option Utf8Lead → List UInt8 → List (Option Char)
  | none, [] => []
  | some _, [] => [none]
  | pending, byte :: rest =>
      let begin : List (Option Char) :=
        match Utf8Lead.ofByte? byte.toNat with
        | none => none :: utf8Characters none rest
        | some ⟨0, _, _, bits⟩ => some (Char.ofNat bits) :: utf8Characters none rest
        | some lead => utf8Characters (some lead) rest
      match pending with
      | none => begin
      | some ⟨tails, least, greatest, bits⟩ =>
          if least ≤ byte.toNat ∧ byte.toNat ≤ greatest then
            let read := bits * 64 + (byte.toNat - 0x80)
            if tails ≤ 1 then
              some (Char.ofNat read) :: utf8Characters none rest
            else
              utf8Characters (some ⟨tails - 1, 0x80, 0xbf, read⟩) rest
          else
            none :: begin

/-- Read bytes that must all be UTF-8. -/
def decodeUtf8? (bytes : List UInt8) : Option String :=
  ((utf8Characters none bytes).mapM id).map String.ofList

/-- Read bytes as UTF-8, with U+FFFD for every ill-formed part. -/
def decodeUtf8Leniently (bytes : List UInt8) : String :=
  String.ofList
    ((utf8Characters none bytes).map fun character => character.getD '\ufffd')

/-- The whole lines before the first part that is not UTF-8. -/
def decodeLeadingLines (bytes : List UInt8) : String :=
  let wellFormed := ((utf8Characters none bytes).takeWhile Option.isSome).filterMap id
  String.ofList (wellFormed.reverse.dropWhile (· != '\n')).reverse

def encodeUtf8 (text : String) : List UInt8 :=
  text.toList.flatMap String.utf8EncodeChar

end Rollout.Text
