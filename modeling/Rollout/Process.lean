import Rollout.Dialogue
import Rollout.Text.Blank
import Rollout.Text.NullCharacter
import Rollout.Text.Utf8

/-!
Contract: other programs, as something that is started and answers.

Owns:
- what is started, what comes back, and why a start can fail;
- the start of a program as a question, refused without one when an argument
  cannot be handed over.

Does not own: how programs are really started.
-/

namespace Rollout

structure Launch where
  program : String
  arguments : List String
  /-- The text that the program reads, if it reads any. -/
  input : Option String
  deriving DecidableEq, Repr

inductive LaunchFault where
  | notFound
  | notPermitted
  /-- An argument holds the character that ends arguments. -/
  | nulByte
  | argumentTooLong
  | other (detail : String)
  deriving DecidableEq, Repr

def LaunchFault.message : LaunchFault → String
  | .notFound => "No such file or directory (os error 2)"
  | .notPermitted => "Permission denied (os error 13)"
  | .nulByte => "nul byte found in provided data"
  | .argumentTooLong => "Argument list too long (os error 7)"
  | .other detail => detail

/-- What a program left when it ended. -/
structure ProcessOutput where
  exitCode : Nat
  stdout : List UInt8
  stderr : List UInt8
  deriving DecidableEq, Repr

namespace ProcessOutput

def succeeded (output : ProcessOutput) : Bool :=
  output.exitCode == 0

/-- What the program said about a failure. -/
def complaint (output : ProcessOutput) : String :=
  Text.trim (Text.decodeUtf8Leniently output.stderr)

end ProcessOutput

abbrev LaunchAnswer (_ : Launch) : Type :=
  Except LaunchFault ProcessOutput

/-- A computation that starts programs. -/
abbrev Shell (α : Type) : Type :=
  Dialogue Launch LaunchAnswer α

/-- Start a program. With an argument that cannot be handed over nothing is
started. -/
def Launch.start (launch : Launch) : Shell (Except LaunchFault ProcessOutput) :=
  if Text.holdsNul launch.program || launch.arguments.any Text.holdsNul then
    .done (.error .nulByte)
  else
    .ask launch .done

end Rollout
