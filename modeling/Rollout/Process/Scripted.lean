import Rollout.FileTree
import Rollout.Process

/-!
Contract: starting programs without starting them: each start is answered with
the next prepared reply.

Owns: the prepared replies, why other starts fail, the length that an argument can
have, and the record of the starts.

Does not own: what the programs would do.
-/

namespace Rollout

/-- Why a start fails if none of the files of the host is a program. With a slash it
is a path, and what it finds must not be started. Without one it is a name in the
directories of programs, each of which is there. -/
def LaunchFault.ofPath
    (tree : FileTree)
    (program : String) :
    LaunchFault :=
  if program.contains '/' then
    match tree.find program with
    | .missing | .unreachable .notFound | .unreachable .isDirectory => .notFound
    | .unreachable fault => .other fault.message
    | .text _ | .foreign _ | .blocked _ => .notPermitted
  else if program = "." || program = ".." then
    .notPermitted
  else if FileTree.nameBound < program.utf8ByteSize then
    .other FileTree.tooLong.message
  else
    .notFound

/-- Prepared replies for the starts of one program. -/
structure ScriptedShell where
  /-- The program that can be started, while it is there. -/
  program : Option String
  /-- Why other programs cannot be started, where it is not that they are absent. -/
  refusals : List (String × LaunchFault)
  replies : List ProcessOutput
  /-- The reply when the others are used up. -/
  fallback : ProcessOutput
  /-- What was started, in order. -/
  started : List Launch
  deriving DecidableEq, Repr

namespace ScriptedShell

/-- Arguments have fewer bytes than this. -/
def argumentBound : Nat :=
  131072

def respond : Responder Launch LaunchAnswer ScriptedShell := fun launch shell =>
  if shell.program = some launch.program then
    if launch.arguments.all fun argument => argument.utf8ByteSize < argumentBound then
      let started := shell.started ++ [launch]
      match shell.replies with
      | [] => (.ok shell.fallback, { shell with started := started })
      | reply :: rest => (.ok reply, { shell with replies := rest, started := started })
    else
      (.error .argumentTooLong, shell)
  else
    (.error ((shell.refusals.lookup launch.program).getD .notFound), shell)

end ScriptedShell

end Rollout
