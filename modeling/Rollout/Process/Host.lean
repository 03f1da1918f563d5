import Rollout.Json.Printer
import Rollout.Json.Reader
import Rollout.Process

/-!
Contract: starting programs by asking the host that runs this one.

Owns: the line that asks for a start, and the reading of the line that answers.
Both are JSON objects.

Does not own: the exchange of lines.
-/

namespace Rollout

/-- The line that asks for the start of a program. -/
def Launch.requestLine (launch : Launch) : String :=
  (Json.ofMembers
    [("program", .string launch.program),
      ("arguments", .array (launch.arguments.map Json.string)),
      ("input", (launch.input.map Json.string).getD .null)]).compact ++ "\n"

namespace HostReply

/-- Bytes that are given as text or, one by one, as numbers. -/
def bytes : Json → List UInt8
  | .string text => Text.encodeUtf8 text
  | .array items => items.filterMap fun item => item.unsigned?.map UInt64.toUInt8
  | _ => []

/-- A member of a reply; null if it is absent. -/
def field
    (reply : Json)
    (name : String) :
    Json :=
  (reply.member? name).getD .null

def faultOf : String → LaunchFault
  | "not-found" => .notFound
  | "not-permitted" => .notPermitted
  | "argument-too-long" => .argumentTooLong
  | detail => .other detail

/-- What a reply says: a fault, or what the program left. -/
def ofJson (reply : Json) : Except LaunchFault ProcessOutput :=
  match (field reply "fault").text? with
  | some name => .error (faultOf name)
  | none =>
      .ok
        ⟨(((field reply "exit").unsigned?).map UInt64.toNat).getD 0,
          bytes (field reply "stdout"), bytes (field reply "stderr")⟩

def ofLine (line : String) : Except LaunchFault ProcessOutput :=
  match Json.ofText? line with
  | some reply => ofJson reply
  | none => .error (.other "no reply from the host")

end HostReply

end Rollout
