import Rollout.Environment
import Rollout.Text.Alphanumeric
import Rollout.Text.Blank
import Rollout.Text.NullCharacter

/-!
Contract: files of environment variables, one `NAME=value` a line.

Owns:
- the lines of such a file, where quotes can hold line ends and comments are cut
  off;
- the form of a line: an optional `export`, a name, and a value with quotes,
  escapes and references to variables;
- loading the variables: those that are set already stay, and lines from the first
  malformed one on do not count. A variable whose value cannot be set ends the
  loading.

Does not own: finding the file.
-/

namespace Rollout.EnvironmentFile

/-! ## Lines -/

/-- Where the reading of a line stands between two characters. -/
inductive Quoting where
  | plain
  /-- After a blank character, where a comment can start. -/
  | blank
  | escaped
  | double
  | doubleEscaped
  | single
  | singleEscaped
  deriving DecidableEq, Repr

/-- What a character outside quotes leads to, a blank one apart. -/
def Quoting.afterPlain : Char → Quoting
  | '\\' => .escaped
  | '"' => .double
  | '\'' => .single
  | _ => .plain

/-- Whether a character is blank without ending a line. -/
def isInlineBlank (character : Char) : Bool :=
  Text.isBlank character && character != '\n' && character != '\r'

/-- What a character leads to; `none` where a comment starts. -/
def Quoting.after : Quoting → Char → Option Quoting
  | .plain, character =>
      some (if isInlineBlank character then .blank else .afterPlain character)
  | .blank, character => if character = '#' then none else some (.afterPlain character)
  | .escaped, _ => some .plain
  | .double, character =>
      some (if character = '\\' then .doubleEscaped
        else if character = '"' then .plain else .double)
  | .doubleEscaped, _ => some .double
  | .single, character =>
      some (if character = '\\' then .singleEscaped
        else if character = '\'' then .plain else .single)
  | .singleEscaped, _ => some .single

/-- Read a line on from a standing: the characters before a comment, and the
standing at the end unless there is a comment. -/
def scan : Quoting → List Char → List Char × Option Quoting
  | quoting, [] => ([], some quoting)
  | quoting, character :: rest =>
      match quoting.after character with
      | none => ([], none)
      | some quoting =>
          let (kept, standing) := scan quoting rest
          (character :: kept, standing)

/-- The lines of a text, each with the line feed that ends it. -/
def physicalLines : List Char → List (List Char)
  | [] => []
  | '\n' :: rest => ['\n'] :: physicalLines rest
  | character :: rest =>
      match physicalLines rest with
      | [] => [[character]]
      | line :: lines => (character :: line) :: lines

def withoutEnd (line : List Char) : List Char :=
  match line.reverse with
  | '\n' :: '\r' :: rest => rest.reverse
  | '\n' :: rest => rest.reverse
  | _ => line

/-- Whether a line holds nothing but a comment. -/
def isComment (line : List Char) : Bool :=
  match line.dropWhile Text.isBlank with
  | '#' :: _ => true
  | _ => false

/-- The lines in which quotes hold line ends, without comments. The text before a
line and the standing at its end are carried along; `none` stands for a text that
ends within a line. -/
def logicalLines : Quoting → List Char → List (List Char) → List (Option (List Char))
  | quoting, _, [] => if quoting = .plain then [] else [none]
  | quoting, before, line :: rest =>
      if isComment (before ++ line) then
        some [] :: logicalLines .plain [] rest
      else
        match scan quoting line with
        | (kept, none) => some (before ++ kept) :: logicalLines .plain [] rest
        | (_, some .plain) => some (withoutEnd (before ++ line)) :: logicalLines .plain [] rest
        | (_, some standing) => logicalLines standing (before ++ line) rest

/-! ## Values -/

/-- Where the reading of a value stands. The argument tells whether double quotes
are open. -/
inductive ValueMode where
  | text (quoted : Bool)
  | single
  | escaped (quoted : Bool)
  /-- After a dollar sign, with the letters of the name so far. -/
  | name (quoted : Bool) (letters : List Char)
  /-- In braces after a dollar sign. -/
  | braced (quoted : Bool) (letters : List Char)
  /-- After the value, where only blanks and a comment may follow. -/
  | ended
  deriving DecidableEq, Repr

/-- The value of a variable that is referred to; nothing if it is not set. -/
def reference
    (environment : Environment)
    (letters : List Char) :
    List Char :=
  ((environment (String.ofList letters)).getD "").toList

/-- What an escaped character stands for. -/
def unescaped? : Char → Option Char
  | 'n' => some '\n'
  | '\\' => some '\\'
  | '\'' => some '\''
  | '"' => some '"'
  | '$' => some '$'
  | ' ' => some ' '
  | _ => none

/-- Read a value on from a standing; `none` if it is malformed. -/
def readValue (environment : Environment) : ValueMode → List Char → Option (List Char)
  | .text quoted, [] | .escaped quoted, [] => if quoted then none else some []
  | .name quoted letters, [] => if quoted then none else some (reference environment letters)
  | .single, [] | .braced _ _, [] => none
  | .ended, [] => some []
  | .ended, character :: rest =>
      if character = ' ' || character = '\t' then
        readValue environment .ended rest
      else if character = '#' then
        some []
      else
        none
  | .escaped quoted, character :: rest =>
      match unescaped? character with
      | none => none
      | some meant => (readValue environment (.text quoted) rest).map (meant :: ·)
  | .single, character :: rest =>
      if character = '\'' then
        readValue environment (.text false) rest
      else
        (readValue environment .single rest).map (character :: ·)
  | .name quoted letters, character :: rest =>
      if Text.isAlphanumeric character then
        readValue environment (.name quoted (letters ++ [character])) rest
      else if character = '{' && letters.isEmpty then
        readValue environment (.braced quoted []) rest
      else if character = '$' then
        (readValue environment (.name quoted []) rest).map
          (reference environment letters ++ ·)
      else
        (readValue environment (.text quoted) rest).map
          (reference environment letters ++ character :: ·)
  | .braced quoted letters, character :: rest =>
      if character = '}' then
        (readValue environment (.text quoted) rest).map
          (reference environment letters ++ ·)
      else
        readValue environment (.braced quoted (letters ++ [character])) rest
  | .text quoted, character :: rest =>
      if character = '$' then
        readValue environment (.name quoted []) rest
      else if character = '"' then
        readValue environment (.text (!quoted)) rest
      else if character = '\\' then
        readValue environment (.escaped quoted) rest
      else if !quoted && character = '\'' then
        readValue environment .single rest
      else if !quoted && (character = ' ' || character = '\t') then
        readValue environment .ended rest
      else
        (readValue environment (.text quoted) rest).map (character :: ·)

/-! ## Definitions -/

inductive Line where
  | nothing
  | definition (name value : String)
  | malformed
  deriving DecidableEq, Repr

def startsName (character : Char) : Bool :=
  character.isAlpha || character == '_'

/-- Whether a character can stand in a name. -/
def inName (character : Char) : Bool :=
  character.isAlphanum || character == '_' || character == '.'

/-- A line without the blanks before its next character. -/
def skipBlanks (line : List Char) : List Char :=
  line.dropWhile Text.isBlank

/-- Read the name at the start of a line, and the blanks after it. -/
def readName? : List Char → Option (List Char × List Char)
  | [] => none
  | character :: rest =>
      if startsName character then
        some (character :: rest.takeWhile inName, skipBlanks (rest.dropWhile inName))
      else
        none

/-- Read the rest of a line whose name is known: an equals sign and the value. -/
def readDefinition
    (environment : Environment)
    (name : List Char) :
    List Char → Line
  | '=' :: rest =>
      match skipBlanks rest with
      | [] | '#' :: _ => .definition (String.ofList name) ""
      | value =>
          match readValue environment (.text false) value with
          | some value => .definition (String.ofList name) (String.ofList value)
          | none => .malformed
  | _ => .malformed

/-- Whether a line goes on with an equals sign. -/
def startsValue : List Char → Bool
  | '=' :: _ => true
  | _ => false

/-- Read a line that is not blank. The word `export` before a name is left out. -/
def readNamed
    (environment : Environment)
    (line : List Char) :
    Line :=
  match readName? line with
  | none => .malformed
  | some (name, rest) =>
      if name = "export".toList && !startsValue rest then
        match readName? rest with
        | none => .malformed
        | some (name, rest) => readDefinition environment name rest
      else
        readDefinition environment name rest

/-- Read a line, in which references see the given variables. -/
def readLine
    (environment : Environment)
    (line : List Char) :
    Line :=
  match Text.trimBlanks line with
  | [] | '#' :: _ => .nothing
  | trimmed => readNamed environment trimmed

/-! ## Loading -/

/-- The environment of a process in which further variables were set. -/
def extend
    (environment : Environment)
    (definitions : List (String × String)) :
    Environment :=
  fun name => environment name <|> Environment.ofBlock definitions name

inductive Ending where
  | complete
  | malformedLine
  /-- A variable that is not set holds what no variable can hold. -/
  | unsettable
  deriving DecidableEq, Repr

structure Loaded where
  /-- The variables that were set, in the order of their lines. -/
  definitions : List (String × String)
  ending : Ending
  deriving DecidableEq, Repr

/-- Read lines in order up to the first malformed one or the first that sets what
cannot be set. References see the
variables that are set and those of the lines before. -/
def readLines
    (environment : Environment) :
    List (String × String) → List (Option (List Char)) → Loaded
  | definitions, [] => ⟨definitions, .complete⟩
  | definitions, none :: _ => ⟨definitions, .malformedLine⟩
  | definitions, some line :: rest =>
      let known := extend environment definitions
      match readLine known line with
      | .nothing => readLines environment definitions rest
      | .definition name value =>
          if (known name).isSome then
            readLines environment definitions rest
          else if Text.holdsNul value then
            ⟨definitions, .unsettable⟩
          else
            readLines environment (definitions ++ [(name, value)]) rest
      | .malformed => ⟨definitions, .malformedLine⟩

/-- A text without the mark that can stand before it. -/
def withoutMark : List Char → List Char
  | '\ufeff' :: rest => rest
  | characters => characters

def load
    (environment : Environment)
    (text : String) :
    Loaded :=
  readLines environment []
    (logicalLines .plain [] (physicalLines (withoutMark text.toList)))

/-! ## References -/

/-- The longest parts of a text whose characters pass a test. -/
def partsOf
    (passes : Char → Bool) :
    List Char → List (List Char)
  | [] => [[]]
  | character :: rest =>
      match partsOf passes rest with
      | part :: parts =>
          if passes character then (character :: part) :: parts else [] :: part :: parts
      | [] => [[character]]

/-- The texts between an opening brace and the next closing one. -/
def bracedParts : List Char → List (List Char)
  | [] => []
  | character :: rest =>
      if character = '{' then
        rest.takeWhile (· != '}') :: bracedParts rest
      else
        bracedParts rest

/-- The variables that a file can define or refer to. -/
def variableNames (text : String) : List String :=
  let parts :=
    partsOf inName text.toList ++ partsOf Text.isAlphanumeric text.toList ++
      bracedParts text.toList
  (parts.filter fun part => !part.isEmpty).map String.ofList

/-! ## An optional file -/

inductive LoadFault where
  | absent
  | unreadable
  | malformedLine
  | other
  deriving DecidableEq, Repr

/-- Let an absent file be no fault. -/
def ifPresent
    {α : Type} :
    Except LoadFault α → Except LoadFault (Option α)
  | .ok loaded => .ok (some loaded)
  | .error .absent => .ok none
  | .error fault => .error fault

end Rollout.EnvironmentFile
