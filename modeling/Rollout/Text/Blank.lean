/-!
Contract: blank characters and the trimming of text.

Owns:
- the characters with the Unicode property `White_Space`;
- removing them from both ends of a text.

Does not own: white space of a particular file format.
-/

namespace Rollout.Text

/-- Whether a character has the Unicode property `White_Space`. -/
def isBlank (character : Char) : Bool :=
  let point := character.toNat
  (0x09 ≤ point && point ≤ 0x0d) || point == 0x20 || point == 0x85 ||
    point == 0xa0 || point == 0x1680 || (0x2000 ≤ point && point ≤ 0x200a) ||
    point == 0x2028 || point == 0x2029 || point == 0x202f ||
    point == 0x205f || point == 0x3000

/-- Remove the blank characters at both ends. -/
def trimBlanks (characters : List Char) : List Char :=
  ((characters.dropWhile isBlank).reverse.dropWhile isBlank).reverse

def trim (text : String) : String :=
  String.ofList (trimBlanks text.toList)

/-- Whether a text has no character other than blank ones. -/
def blank (text : String) : Bool :=
  text.toList.all isBlank

end Rollout.Text
