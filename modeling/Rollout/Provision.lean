import Rollout.Backend
import Rollout.Graph
import Rollout.Seeds
import Rollout.Template.Resolution

/-!
Contract: creating or reusing the resources of a graph, in order.

Owns:
- what is sent for one resource: its resolved message and funds;
- the walk over a graph, which records every live resource and stops at the first
  fault;
- the faults and their wording.

Does not own: what happens to the record of a stopped walk.
-/

namespace Rollout

inductive ProvisionFault where
  /-- A template refers to what is not known, or is malformed. -/
  | unresolved (resource : String) (fault : ResolveFault)
  | invalidFunds (resource : String) (fault : CoinFault)
  | backend (resource : String) (operation : Operation) (fault : BackendFault)
  deriving DecidableEq, Repr

namespace ProvisionFault

def resource : ProvisionFault → String
  | .unresolved resource _ => resource
  | .invalidFunds resource _ => resource
  | .backend resource _ _ => resource

/-- What could not be resolved, in words. -/
def reference : ResolveFault → String
  | .unresolved placeholder => placeholder.text
  | .malformed fault => fault.message

def message : ProvisionFault → String
  | .unresolved resource fault =>
      "cannot provision `" ++ resource ++ "`: unresolved dependency " ++ reference fault
  | .invalidFunds resource fault =>
      "cannot provision `" ++ resource ++ "`: " ++ fault.message
  | .backend resource operation fault =>
      "error provisioning `" ++ resource ++ "` during " ++ operation.text ++ ": " ++
        fault.message

end ProvisionFault

/-- A walk that stopped early, with what it had recorded. -/
structure Aborted where
  fault : ProvisionFault
  registry : Registry
  deriving DecidableEq, Repr

def Aborted.message (aborted : Aborted) : String :=
  aborted.fault.message ++ " (" ++ toString aborted.registry.size ++
    " resources recorded before aborting)"

namespace Provision

/-! ## One resource -/

/-- The message and the funds that instantiate a resource. -/
structure Preparation where
  payload : Json
  funds : List Coin
  deriving DecidableEq, Repr

def fundsOf
    (scope : Scope)
    (descriptor : Descriptor) :
    Except ProvisionFault (List Coin) :=
  match descriptor.funds with
  | none => .ok []
  | some funds =>
      match scope.resolveText funds with
      | .error fault => .error (.unresolved descriptor.name fault)
      | .ok resolved =>
          match Coin.parseList resolved with
          | .error fault => .error (.invalidFunds descriptor.name fault)
          | .ok coins => .ok coins

/-- What is sent to instantiate a resource, given what is known. -/
def prepare
    (scope : Scope)
    (descriptor : Descriptor) :
    Except ProvisionFault Preparation :=
  match scope.resolve descriptor.template with
  | .error fault => .error (.unresolved descriptor.name fault)
  | .ok payload =>
      match fundsOf scope descriptor with
      | .error fault => .error fault
      | .ok funds => .ok ⟨payload, funds⟩

/-- Instantiate a resource from known code. -/
def instantiate
    (descriptor : Descriptor)
    (preparation : Preparation)
    (codeId : CodeId) :
    Exchange (Except ProvisionFault Entry) :=
  .ask (.instantiate codeId preparation.payload preparation.funds descriptor.label)
    fun
    | .ok address => .done (.ok (.ofCreation descriptor.name codeId address))
    | .error fault => .done (.error (.backend descriptor.name .instantiate fault))

/-- Create a resource: register its artifact or take the code id of its source,
then instantiate it. -/
def create
    (scope : Scope)
    (descriptor : Descriptor) :
    Exchange (Except ProvisionFault Entry) :=
  match prepare scope descriptor with
  | .error fault => .done (.error fault)
  | .ok preparation =>
      match descriptor.artifact with
      | .upload locator =>
          .ask (.registerArtifact locator) fun
          | .ok codeId => instantiate descriptor preparation codeId
          | .error fault =>
              .done (.error (.backend descriptor.name .registerArtifact fault))
      | .reuse source =>
          match scope.registry.codeId? source with
          | some codeId => instantiate descriptor preparation codeId
          | none =>
              .done (.error (.unresolved descriptor.name (.unresolved (.codeId source))))

/-- Provision a resource: reuse it if its address is seeded, and create it
otherwise. -/
def resource
    (seeds : Seeds)
    (scope : Scope)
    (descriptor : Descriptor) :
    Exchange (Except ProvisionFault Entry) :=
  match seeds.address? descriptor.name with
  | some address =>
      .done (.ok (.ofReuse descriptor.name address (seeds.codeId? descriptor.name)))
  | none => create scope descriptor

/-! ## The walk -/

/-- Provision resources in order, after those that are recorded. -/
def walk
    (seeds : Seeds)
    (bindings : Variables) :
    List Descriptor → Registry → Exchange (Except Aborted Registry)
  | [], registry => .done (.ok registry)
  | descriptor :: rest, registry =>
      (resource seeds ⟨registry, bindings⟩ descriptor).bind fun
      | .error fault => .done (.error ⟨fault, registry⟩)
      | .ok entry => walk seeds bindings rest (registry.record entry)

end Provision

def provision
    (graph : Graph)
    (seeds : Seeds)
    (bindings : Variables) :
    Exchange (Except Aborted Registry) :=
  Provision.walk seeds bindings graph.resources Registry.empty

end Rollout
