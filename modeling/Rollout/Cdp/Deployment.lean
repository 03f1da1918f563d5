import Rollout.Backend.Simulated
import Rollout.Cdp.Config
import Rollout.Cdp.Manifest
import Rollout.Cdp.Options
import Rollout.Cdp.Seeding
import Rollout.Configuration
import Rollout.Deployments
import Rollout.Inquiry
import Rollout.Provision

/-!
Contract: a whole deployment.

Owns:
- the order of its parts: seeds, provisioning, recording, scenarios, inspections;
- which faults end it, and the count of those that do not;
- the choice between a rehearsal and a chain that is connected first;
- its actions on the world, which are connecting, calling and saving.

Does not own: how the actions are carried out.
-/

namespace Rollout.Cdp

/-! ## Faults -/

inductive DeploymentFault where
  | missingConfiguration (missing : MissingVariables)
  | invalidManifest (fault : GraphFault)
  | provisioning (aborted : Aborted)
  | deployments (fault : DeploymentsFault)
  | invalidSeed (fault : SeedFault)
  /-- The chain could not be connected. -/
  | clientInitialization (detail : String)
  deriving DecidableEq, Repr

namespace DeploymentFault

def message : DeploymentFault → String
  | .missingConfiguration missing => missing.message
  | .invalidManifest fault => "invalid contract manifest: " ++ fault.message
  | .provisioning aborted => "provisioning aborted: " ++ aborted.message
  | .deployments fault => fault.message
  | .invalidSeed fault => "invalid seed: " ++ fault.message
  | .clientInitialization detail => "error initializing client: " ++ detail

/-- The wording of the fault behind a fault, where there is one. -/
def causeMessage? : DeploymentFault → Option String
  | .missingConfiguration missing => some missing.message
  | .invalidManifest fault => some fault.message
  | .provisioning aborted => some aborted.message
  | .deployments _ | .invalidSeed _ | .clientInitialization _ => none

end DeploymentFault

/-- What a complete deployment came to. -/
structure Report where
  /-- Every live contract. -/
  registry : Registry
  failedChanges : Nat
  /-- How many inquiries failed. -/
  failedInquiries : Nat
  deriving DecidableEq, Repr

/-! ## Actions -/

/-- What a deployment does to the world. -/
inductive Action where
  /-- Connect to the chain. The answer is the address that signs. -/
  | connect (config : Config)
  | call (call : Call)
  /-- Save a text as the deployments file. -/
  | save (content : String)
  deriving DecidableEq, Repr

@[reducible] def Action.Answer : Action → Type
  | .connect _ => Except String String
  | .call made => made.Answer
  | .save _ => Except FileFault Unit

/-- A computation that acts. -/
abbrev Procedure (α : Type) : Type :=
  Dialogue Action Action.Answer α

/-- Calls as actions. -/
def onChain {α : Type} : Exchange α → Procedure α
  | .done value => .done value
  | .ask call next => .ask (.call call) fun answer => onChain (next answer)

/-! ## The parts of a deployment -/

/-- What provisioning starts from: the graph and the seeds of its resources, those
of the environment over those of the file. -/
def plan
    (options : Options)
    (environment : Environment)
    (file : FileState) :
    Except DeploymentFault (Graph × Seeds) :=
  match graph options.artifactsDir with
  | .error fault => .error (.invalidManifest fault)
  | .ok graph =>
      match Deployments.seeds file with
      | .error fault => .error (.deployments fault)
      | .ok seeds =>
          match overlayEnvironment environment graph.names seeds with
          | .error (fault, _) => .error (.invalidSeed fault)
          | .ok seeds => .ok (graph, seeds)

/-- Record a registry in the deployments file. A rehearsal leaves the file alone. -/
def persist
    (options : Options)
    (file : FileState)
    (registry : Registry) :
    Procedure (Except DeploymentFault Unit) :=
  if options.dryRun then
    .done (.ok ())
  else
    match Deployments.updated options.deploymentsPath registry file with
    | .error fault => .done (.error (.deployments fault))
    | .ok content =>
        .ask (.save content) fun
        | .ok () => .done (.ok ())
        | .error fault => .done (.error (.deployments (.write (.file fault))))

/-- How many changes were not made. -/
def failures (results : List (Except ChangeFault ChangeOutcome)) : Nat :=
  results.countP fun result => !result.isOk

/-- How many inquiries have no answer. -/
def unanswered (results : List InquiryResult) : Nat :=
  results.countP fun result => !result.isOk

/-- Apply scenarios in order and count the changes that fail. -/
def applyScenarios
    (scope : Scope)
    (artifactsDir : String) :
    List Scenario → Exchange Nat
  | [] => .done 0
  | scenario :: rest =>
      (applyChanges scope (scenario.changes artifactsDir)).bind fun results =>
        (applyScenarios scope artifactsDir rest).bind fun failed =>
          .done (failures results + failed)

/-- Run inspections in order and count the inquiries that fail. -/
def runInspections (scope : Scope) : List Inspection → Exchange Nat
  | [] => .done 0
  | inspection :: rest =>
      (makeInquiries scope inspection.inquiries).bind fun results =>
        (runInspections scope rest).bind fun failed =>
          .done (unanswered results + failed)

/-- What follows when every contract is live: the scenarios, then the inspections. -/
def configure
    (options : Options)
    (scope : Scope) :
    Exchange Report :=
  (applyScenarios scope options.artifactsDir options.scenarios).bind fun failedChanges =>
    (runInspections scope options.inspections).bind fun failedInquiries =>
      .done ⟨scope.registry, failedChanges, failedInquiries⟩

/-- Deploy on a chain whose transactions are signed by `deployer`. When
provisioning stops early, what was created is recorded all the same, and the
stop is the fault of the deployment whether or not the recording works. -/
def deploy
    (options : Options)
    (config : Config)
    (environment : Environment)
    (file : FileState)
    (deployer : String) :
    Procedure (Except DeploymentFault Report) :=
  match plan options environment file with
  | .error fault => .done (.error fault)
  | .ok (graph, seeds) =>
      (onChain (provision graph seeds (config.bindings deployer))).bind fun
      | .error aborted =>
          (persist options file aborted.registry).bind fun _ =>
            .done (.error (.provisioning aborted))
      | .ok registry =>
          (persist options file registry).bind fun
          | .error fault => .done (.error fault)
          | .ok () =>
              (onChain (configure options ⟨registry, config.bindings deployer⟩)).bind
                fun report => .done (.ok report)

/-! ## Rehearsal and run -/

/-- Carry out actions on a simulated chain. Nothing is saved. -/
def simulate : Responder Action Action.Answer SimulatedChain
  | .connect _, chain => (.ok SimulatedChain.signer, chain)
  | .call call, chain => SimulatedChain.respond call chain
  | .save _, chain => (.ok (), chain)

/-- Deploy on an empty simulated chain. -/
def rehearse
    (options : Options)
    (config : Config)
    (environment : Environment)
    (file : FileState) :
    Except DeploymentFault Report :=
  ((deploy options config environment file SimulatedChain.signer).play simulate
    SimulatedChain.empty).value

/-- Check the configuration, then rehearse, or connect to a chain and deploy
there. Nothing is done without the configuration. -/
def run
    (options : Options)
    (environment : Environment)
    (file : FileState) :
    Procedure (Except DeploymentFault Report) :=
  match Config.ofEnvironment environment with
  | .error missing => .done (.error (.missingConfiguration missing))
  | .ok config =>
      if options.dryRun then
        .done (rehearse options config environment file)
      else
        .ask (.connect config) fun
        | .error detail => .done (.error (.clientInitialization detail))
        | .ok deployer => deploy options config environment file deployer

end Rollout.Cdp
