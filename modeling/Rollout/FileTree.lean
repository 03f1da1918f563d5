import Rollout.FileState
import Rollout.Text.NullCharacter

/-!
Contract: the files and directories of a host as a value.

Owns:
- the places of a tree, what stands at them, and putting something there;
- following a path to the place to which it leads, with the reasons why it leads
  nowhere.

Does not own: links, and who may do what.
-/

namespace Rollout

/-- A place by the names on the way to it from the root, the last one first. -/
abbrev Place : Type :=
  List String

structure FileTree where
  /-- The place from which relative paths lead. -/
  workplace : Place
  /-- What stands where. The first entry of a place counts, and where there is none
  there is nothing. -/
  entries : List (Place × FileState)
  deriving DecidableEq, Repr

namespace FileTree

def stateOf
    (tree : FileTree)
    (place : Place) :
    FileState :=
  (tree.entries.lookup place).getD .missing

def put
    (tree : FileTree)
    (place : Place)
    (state : FileState) :
    FileTree :=
  { tree with entries := (place, state) :: tree.entries }

/-- Names have at most this many bytes. -/
def nameBound : Nat :=
  255

/-- Paths have fewer bytes than this. -/
def pathBound : Nat :=
  4096

/-- A name or a path is too long. -/
def tooLong : FileFault :=
  .other "File name too long (os error 36)"

/-- A path leads on from what is no directory. -/
def notDirectory : FileFault :=
  .other "Not a directory (os error 20)"

/-- Follow the names of a path from a place. A name that stands before others, or
before the end of a path that ends in a slash, has to lead to a directory. -/
def follow (tree : FileTree) : Place → List String → Except FileFault Place
  | place, [] => .ok place
  | place, name :: rest =>
      match tree.stateOf place with
      | .blocked .isDirectory =>
          if name = "" || name = "." then
            tree.follow place rest
          else if name = ".." then
            tree.follow (place.drop 1) rest
          else if nameBound < name.utf8ByteSize then
            .error tooLong
          else
            tree.follow (name :: place) rest
      | .missing =>
          .error (if (name :: rest).all String.isEmpty then .isDirectory else .notFound)
      | _ => .error notDirectory

def locate
    (tree : FileTree)
    (path : String) :
    Except FileFault Place :=
  if Text.holdsNul path then
    .error (.other "file name contained an unexpected NUL byte")
  else if path.isEmpty then
    .error .notFound
  else if pathBound ≤ path.utf8ByteSize then
    .error tooLong
  else
    tree.follow (if path.startsWith "/" then [] else tree.workplace) (path.splitOn "/")

def find
    (tree : FileTree)
    (path : String) :
    FileState :=
  match tree.locate path with
  | .ok place => tree.stateOf place
  | .error fault => .unreachable fault

def save
    (tree : FileTree)
    (path content : String) :
    Except FileFault FileTree := do
  let place ← tree.locate path
  let saved ← (tree.stateOf place).save content
  return tree.put place saved

/-- Make a directory at a path where nothing stands. -/
def makeDirectory
    (tree : FileTree)
    (path : String) :
    Except FileFault FileTree := do
  let place ← tree.locate path
  match tree.stateOf place with
  | .missing => return tree.put place (.blocked .isDirectory)
  | .unreachable fault => throw fault
  | .text _ | .foreign _ | .blocked _ => throw (.other "File exists (os error 17)")

end FileTree

end Rollout
