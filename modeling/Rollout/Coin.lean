import Rollout.Text.Blank
import Rollout.Text.Commas
import Rollout.Text.Unsigned

/-!
Contract: coins and coin lists as text, such as `100usei,5uatom`.

Owns:
- coins with amounts of 128 bits;
- the form of a denomination;
- reading and writing coin lists.

Does not own: coins in JSON.
-/

namespace Rollout

/-- Amounts have 128 bits: they are below this bound. -/
abbrev amountBound : Nat :=
  340282366920938463463374607431768211456

/-- A coin: an amount of 128 bits of a denomination. -/
structure Coin where
  amount : Fin amountBound
  denom : String
  deriving DecidableEq, Repr

/-- A part of a coin list that is not a coin. -/
structure CoinFault where
  part : String
  deriving DecidableEq, Repr

def CoinFault.message (fault : CoinFault) : String :=
  "invalid coin `" ++ fault.part ++ "`"

namespace Coin

/-! ## Writing -/

/-- A coin as text: the amount followed by the denomination. -/
def text (coin : Coin) : String :=
  String.ofList (Nat.toDigits 10 coin.amount.val) ++ coin.denom

def listText (coins : List Coin) : String :=
  String.intercalate "," (coins.map text)

/-! ## Reading -/

/-- Whether a character is an ASCII letter. -/
def isLetter (character : Char) : Bool :=
  ('a' ≤ character && character ≤ 'z') || ('A' ≤ character && character ≤ 'Z')

/-- Whether a character may stand in a denomination after its first letter. -/
def isDenomCharacter (character : Char) : Bool :=
  isLetter character || Text.isDigit character ||
    character == '/' || character == ':' || character == '.' ||
    character == '_' || character == '-'

/-- Whether a text is a denomination: a letter, then letters, digits and
`/ : . _ -`. -/
def isDenom : List Char → Bool
  | [] => false
  | first :: rest => isLetter first && rest.all isDenomCharacter

/-- Read one coin: its digits, then its denomination. -/
def ofCharacters? (part : List Char) : Option Coin :=
  let digits := part.takeWhile Text.isDigit
  let denom := part.dropWhile Text.isDigit
  if digits.isEmpty then
    none
  else if isDenom denom then
    if inRange : Text.digitsValue digits < amountBound then
      some ⟨⟨Text.digitsValue digits, inRange⟩, String.ofList denom⟩
    else
      none
  else
    none

/-- Read the trimmed parts of a coin list in order, up to the first that is not
a coin. -/
def readParts : List (List Char) → Except CoinFault (List Coin)
  | [] => .ok []
  | part :: parts =>
      let trimmed := Text.trimBlanks part
      match ofCharacters? trimmed with
      | none => .error ⟨String.ofList trimmed⟩
      | some coin =>
          match readParts parts with
          | .ok coins => .ok (coin :: coins)
          | .error fault => .error fault

/-- Read a coin list. Blank text is the empty list. -/
def parseList (text : String) : Except CoinFault (List Coin) :=
  if Text.blank text then
    .ok []
  else
    readParts (Text.splitCommas text.toList)

end Coin

end Rollout
