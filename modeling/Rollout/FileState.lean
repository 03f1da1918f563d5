import Rollout.Text.Utf8

/-!
Contract: what stands at a path where a file may be.

Owns:
- the states of such a path, with the content of a file as text where it is text;
- reading the text of a file and saving a text, with the reasons of a refusal.

Does not own: what the text means, and access to real files.
-/

namespace Rollout

/-- Why a file could not be read as text, or not saved. -/
inductive FileFault where
  | notFound
  | isDirectory
  | notText
  | other (detail : String)
  deriving DecidableEq, Repr

def FileFault.message : FileFault → String
  | .notFound => "No such file or directory (os error 2)"
  | .isDirectory => "Is a directory (os error 21)"
  | .notText => "stream did not contain valid UTF-8"
  | .other detail => detail

/-- What stands at a path. -/
inductive FileState where
  /-- Nothing, and a file can be made there. -/
  | missing
  /-- Nothing, and no file can be made there, as when the directory of the path is
  not there either. -/
  | unreachable (fault : FileFault)
  | text (content : String)
  /-- A file whose content is not UTF-8. -/
  | foreign (content : List UInt8)
  /-- Something that can be neither read nor replaced, such as a directory. -/
  | blocked (fault : FileFault)
  deriving DecidableEq, Repr

namespace FileState

def ofBytes (content : List UInt8) : FileState :=
  match Text.decodeUtf8? content with
  | some decoded => .text decoded
  | none => .foreign content

def isPresent : FileState → Bool
  | .missing | .unreachable _ => false
  | .text _ | .foreign _ | .blocked _ => true

def read : FileState → Except FileFault String
  | .missing => .error .notFound
  | .unreachable fault => .error fault
  | .text content => .ok content
  | .foreign _ => .error .notText
  | .blocked fault => .error fault

/-- The text of a file that is read line by line, if there is a file: all of it, or
the lines before the first one that is not UTF-8. -/
def readableText : FileState → Option String
  | .text content => some content
  | .foreign content => some (Text.decodeLeadingLines content)
  | .missing | .unreachable _ | .blocked _ => none

/-- Save a text in place of what a file holds. -/
def save
    (state : FileState)
    (content : String) :
    Except FileFault FileState :=
  match state with
  | .unreachable fault | .blocked fault => .error fault
  | .missing | .text _ | .foreign _ => .ok (.text content)

end FileState

end Rollout
