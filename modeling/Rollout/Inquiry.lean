import Rollout.Backend
import Rollout.Template.Resolution

/-!
Contract: queries to live resources, which change nothing.

Owns: inquiries, running a list of them with one result for each, the faults and
their wording.

Does not own: which inquiries a deployment makes.
-/

namespace Rollout

/-- A query to a live resource. -/
structure Inquiry where
  /-- The name of a resource, or a template of an address. -/
  target : String
  query : Json
  deriving DecidableEq, Repr

inductive InquiryFault where
  | unresolved (fault : ResolveFault)
  | backend (fault : BackendFault)
  deriving DecidableEq, Repr

def InquiryFault.message : InquiryFault → String
  | .unresolved fault => fault.message
  | .backend fault => "query failed: " ++ fault.message

structure InquiryResult where
  /-- The place of the inquiry in its list. -/
  index : Nat
  target : String
  /-- The resolved query, if it was sent. -/
  query : Option Json
  outcome : Except InquiryFault Json
  deriving Repr

def InquiryResult.isOk (result : InquiryResult) : Bool :=
  match result.outcome with
  | .ok _ => true
  | .error _ => false

namespace Inquiry

/-- The address and the query that are sent. The target is resolved first. -/
def prepare
    (scope : Scope)
    (inquiry : Inquiry) :
    Except ResolveFault (String × Json) :=
  match scope.resolveTarget inquiry.target with
  | .error fault => .error fault
  | .ok address =>
      match scope.resolve inquiry.query with
      | .error fault => .error fault
      | .ok query => .ok (address, query)

def make
    (scope : Scope)
    (index : Nat)
    (inquiry : Inquiry) :
    Exchange InquiryResult :=
  match inquiry.prepare scope with
  | .error fault => .done ⟨index, inquiry.target, none, .error (.unresolved fault)⟩
  | .ok (address, query) =>
      .ask (.query address query) fun
      | .ok response => .done ⟨index, inquiry.target, some query, .ok response⟩
      | .error fault => .done ⟨index, inquiry.target, some query, .error (.backend fault)⟩

/-- Make inquiries in order, from a place on. -/
def makeFrom
    (scope : Scope) :
    Nat → List Inquiry → Exchange (List InquiryResult)
  | _, [] => .done []
  | index, inquiry :: rest =>
      (inquiry.make scope index).bind fun result =>
        (makeFrom scope (index + 1) rest).bind fun results =>
          .done (result :: results)

end Inquiry

/-- Make a list of inquiries, each whatever failed before. -/
def makeInquiries
    (scope : Scope)
    (inquiries : List Inquiry) :
    Exchange (List InquiryResult) :=
  Inquiry.makeFrom scope 0 inquiries

end Rollout
