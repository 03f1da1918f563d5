import Rollout.Backend

/-!
Contract: a backend that follows a script, for trying out failures.

Owns:
- rules that let chosen calls fail, a chosen number of times;
- plain answers to the other calls;
- a log of the calls that were made.

Does not own: a chain.
-/

namespace Rollout

/-- How a rule lets a call fail. -/
inductive ScriptedFault where
  | command (detail : String)
  | response (detail : String)
  /-- The call is not supported, whatever it is. -/
  | unsupported
  deriving DecidableEq, Repr

def ScriptedFault.fault
    (operation : Operation) :
    ScriptedFault → BackendFault
  | .command detail => .command detail
  | .response detail => .response detail
  | .unsupported => .unsupported operation

/-- A rule that lets calls of one kind fail. -/
structure FailureRule where
  operation : Operation
  /-- The artifact, label or address of the calls that are meant; all if absent. -/
  key : Option String
  fault : ScriptedFault
  /-- How many of these calls pass the rule first. -/
  skip : Nat
  /-- How many calls may fail; any number if absent. -/
  times : Option Nat
  deriving DecidableEq, Repr

structure ScriptedBackend where
  rules : List FailureRule
  /-- The code id of the next artifact. -/
  nextCode : CodeId
  /-- The addresses of new contracts, by label. -/
  addresses : List (String × String)
  signer : String
  /-- Whether migrations are supported; if not, they are not logged either. -/
  migrates : Bool
  /-- The calls that were made, in order. -/
  log : List Call
  deriving DecidableEq, Repr

namespace ScriptedBackend

/-- What a rule can name in a call. -/
def key : Call → String
  | .registerArtifact artifact => artifact
  | .instantiate _ _ _ label => label
  | .execute address _ _ => address
  | .query address _ => address
  | .migrate address _ _ => address

def concerns
    (rule : FailureRule)
    (call : Call) :
    Bool :=
  rule.operation == call.operation && (rule.key.getD (key call)) == key call

/-- Try the rules in order on a call: the fault of the first rule that fires, if
one does, and the rules with what they have used up. -/
def tryRules (call : Call) : List FailureRule → Option BackendFault × List FailureRule
  | [] => (none, [])
  | rule :: rest =>
      let pass (rule : FailureRule) :=
        let (fault, rest) := tryRules call rest
        (fault, rule :: rest)
      if concerns rule call then
        match rule.skip, rule.times with
        | skip + 1, _ => pass { rule with skip := skip }
        | 0, some 0 => pass rule
        | 0, some (times + 1) =>
            (some (rule.fault.fault call.operation), { rule with times := some times } :: rest)
        | 0, none => (some (rule.fault.fault call.operation), rule :: rest)
      else
        pass rule

def plainAnswer
    (backend : ScriptedBackend) :
    (call : Call) → call.Answer × ScriptedBackend
  | .registerArtifact _ =>
      (.ok backend.nextCode, { backend with nextCode := backend.nextCode + 1 })
  | .instantiate _ _ _ label =>
      (.ok ((backend.addresses.lookup label).getD (label ++ "_addr")), backend)
  | .execute address _ _ =>
      (.ok (Json.ofMembers [("executed", .string address)]), backend)
  | .query address payload =>
      (.ok (Json.ofMembers [("address", .string address), ("query", payload)]), backend)
  | .migrate address codeId _ =>
      (.ok (Json.ofMembers
        [("migrated", .string address), ("code_id", Json.ofNat codeId.toNat)]),
        backend)

/-- Answer one call: log it, then try the rules, then answer plainly. -/
def respond : Backend ScriptedBackend := fun call backend =>
  if call.operation = .migrate ∧ backend.migrates = false then
    (.error (.unsupported .migrate), backend)
  else
    let (fault, rules) := tryRules call backend.rules
    let logged := { backend with rules := rules, log := backend.log ++ [call] }
    match fault with
    | some fault => (.error fault, logged)
    | none => logged.plainAnswer call

end ScriptedBackend

end Rollout
