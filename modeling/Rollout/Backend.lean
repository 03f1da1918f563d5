import Rollout.Coin
import Rollout.Dialogue
import Rollout.Json.Basic
import Rollout.Registry

/-!
Contract: what a chain can be asked to do.

Owns:
- the calls, the type of the result of each, and the faults;
- exchanges, which are dialogues of calls, and backends, which answer them.

Does not own: any particular backend.
-/

namespace Rollout

inductive Operation where
  | registerArtifact
  | instantiate
  | execute
  | query
  | migrate
  deriving DecidableEq, Repr

def Operation.text : Operation → String
  | .registerArtifact => "register-artifact"
  | .instantiate => "instantiate"
  | .execute => "execute"
  | .query => "query"
  | .migrate => "migrate"

inductive BackendFault where
  /-- The call could not be issued. -/
  | command (detail : String)
  /-- The response reports a failure or lacks what it should hold. -/
  | response (detail : String)
  /-- The response is no JSON text. -/
  | unreadable
  | unsupported (operation : Operation)
  deriving DecidableEq, Repr

def BackendFault.message : BackendFault → String
  | .command detail => "error issuing command: " ++ detail
  | .response detail => "error in response: " ++ detail
  | .unreadable => "error in response: not a JSON text"
  | .unsupported operation => operation.text ++ " is not supported by this backend"

inductive Call where
  | registerArtifact (artifact : String)
  | instantiate (codeId : CodeId) (payload : Json) (funds : List Coin) (label : String)
  | execute (address : String) (payload : Json) (funds : List Coin)
  | query (address : String) (payload : Json)
  | migrate (address : String) (codeId : CodeId) (payload : Json)
  deriving DecidableEq, Repr

namespace Call

def operation : Call → Operation
  | .registerArtifact _ => .registerArtifact
  | .instantiate _ _ _ _ => .instantiate
  | .execute _ _ _ => .execute
  | .query _ _ => .query
  | .migrate _ _ _ => .migrate

/-- What a successful call gives: the code id of an artifact, the address of a
new contract, or a response. -/
@[reducible] def Result : Call → Type
  | .registerArtifact _ => CodeId
  | .instantiate _ _ _ _ => String
  | .execute _ _ _ => Json
  | .query _ _ => Json
  | .migrate _ _ _ => Json

abbrev Answer (call : Call) : Type :=
  Except BackendFault call.Result

end Call

/-- A computation that makes calls. -/
abbrev Exchange (α : Type) : Type :=
  Dialogue Call Call.Answer α

/-- A backend that remembers something of type `σ`. -/
abbrev Backend (σ : Type) : Type :=
  Responder Call Call.Answer σ

/-- A backend whose answers depend on the call alone. -/
def Backend.ofAnswers (answers : (call : Call) → call.Answer) : Backend Unit :=
  fun call _ => (answers call, ())

end Rollout
