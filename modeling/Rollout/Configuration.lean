import Rollout.Backend
import Rollout.Template.Resolution

/-!
Contract: changes to live resources after provisioning.

Owns:
- changes: executing a message, or migrating to an artifact;
- applying a list of changes, one result for each, whatever failed before;
- the faults and their wording.

Does not own: which changes a deployment makes.
-/

namespace Rollout

inductive ChangeKind where
  /-- Execute the payload, with a template of a coin list as funds. -/
  | execute (funds : Option String)
  /-- Migrate to the code of an artifact, with the payload as the message. -/
  | migrate (artifact : String)
  deriving DecidableEq, Repr

/-- A change to a live resource. -/
structure Change where
  /-- The name of a resource, or a template of an address. -/
  target : String
  payload : Json
  kind : ChangeKind
  deriving DecidableEq, Repr

namespace Change

/-- Execute a message without funds. -/
def execute
    (target : String)
    (payload : Json) :
    Change :=
  ⟨target, payload, .execute none⟩

def migrate
    (target artifact : String)
    (payload : Json) :
    Change :=
  ⟨target, payload, .migrate artifact⟩

/-- The change with funds. A migration has none and stays as it is. -/
def withFunds
    (change : Change)
    (funds : String) :
    Change :=
  match change.kind with
  | .execute _ => { change with kind := .execute (some funds) }
  | .migrate _ => change

end Change

inductive ChangeCause where
  | unresolved (fault : ResolveFault)
  | invalidFunds (fault : CoinFault)
  | backend (operation : Operation) (fault : BackendFault)
  deriving DecidableEq, Repr

def ChangeCause.message : ChangeCause → String
  | .unresolved fault => fault.message
  | .invalidFunds fault => fault.message
  | .backend operation fault => operation.text ++ " failed: " ++ fault.message

structure ChangeFault where
  /-- The place of the change in its list. -/
  index : Nat
  target : String
  cause : ChangeCause
  deriving DecidableEq, Repr

def ChangeFault.message (fault : ChangeFault) : String :=
  "configuration operation #" ++ toString fault.index ++ " on `" ++ fault.target ++
    "` failed: " ++ fault.cause.message

structure ChangeOutcome where
  /-- The place of the change in its list. -/
  index : Nat
  target : String
  /-- The address that the target stands for. -/
  address : String
  response : Json
  deriving DecidableEq, Repr

namespace Configuration

/-- The artifacts that were registered for a list of changes, with their code
ids. -/
abbrev Registered := List (String × CodeId)

/-- What is sent for a change: the address, the payload and the funds. -/
structure Preparation where
  address : String
  payload : Json
  funds : List Coin
  deriving DecidableEq, Repr

def fundsOf
    (scope : Scope) :
    ChangeKind → Except ChangeCause (List Coin)
  | .migrate _ | .execute none => .ok []
  | .execute (some funds) =>
      match scope.resolveText funds with
      | .error fault => .error (.unresolved fault)
      | .ok resolved =>
          match Coin.parseList resolved with
          | .error fault => .error (.invalidFunds fault)
          | .ok coins => .ok coins

/-- Resolve the target, the payload and the funds of a change, in this order. -/
def prepare
    (scope : Scope)
    (change : Change) :
    Except ChangeCause Preparation :=
  match scope.resolveTarget change.target with
  | .error fault => .error (.unresolved fault)
  | .ok address =>
      match scope.resolve change.payload with
      | .error fault => .error (.unresolved fault)
      | .ok payload =>
          match fundsOf scope change.kind with
          | .error cause => .error cause
          | .ok funds => .ok ⟨address, payload, funds⟩

def migrate
    (preparation : Preparation)
    (registered : Registered)
    (codeId : CodeId) :
    Exchange (Except ChangeCause (String × Json) × Registered) :=
  .ask (.migrate preparation.address codeId preparation.payload) fun
  | .ok response => .done (.ok (preparation.address, response), registered)
  | .error fault => .done (.error (.backend .migrate fault), registered)

/-- Make one change. The result is the address and the response, and the
artifacts that are registered now. -/
def change
    (scope : Scope)
    (registered : Registered)
    (change : Change) :
    Exchange (Except ChangeCause (String × Json) × Registered) :=
  match prepare scope change with
  | .error cause => .done (.error cause, registered)
  | .ok preparation =>
      match change.kind with
      | .execute _ =>
          .ask (.execute preparation.address preparation.payload preparation.funds) fun
          | .ok response => .done (.ok (preparation.address, response), registered)
          | .error fault => .done (.error (.backend .execute fault), registered)
      | .migrate artifact =>
          match registered.lookup artifact with
          | some codeId => migrate preparation registered codeId
          | none =>
              .ask (.registerArtifact artifact) fun
              | .ok codeId => migrate preparation ((artifact, codeId) :: registered) codeId
              | .error fault =>
                  .done (.error (.backend .registerArtifact fault), registered)

def result
    (index : Nat)
    (target : String) :
    Except ChangeCause (String × Json) → Except ChangeFault ChangeOutcome
  | .ok (address, response) => .ok ⟨index, target, address, response⟩
  | .error cause => .error ⟨index, target, cause⟩

/-- Make changes in order, from a place on. -/
def applyFrom
    (scope : Scope) :
    Nat → Registered → List Change → Exchange (List (Except ChangeFault ChangeOutcome))
  | _, _, [] => .done []
  | index, registered, first :: rest =>
      (change scope registered first).bind fun (made, registered) =>
        (applyFrom scope (index + 1) registered rest).bind fun results =>
          .done (result index first.target made :: results)

end Configuration

/-- Apply a list of changes. An artifact is registered once for the whole list. -/
def applyChanges
    (scope : Scope)
    (changes : List Change) :
    Exchange (List (Except ChangeFault ChangeOutcome)) :=
  Configuration.applyFrom scope 0 [] changes

end Rollout
