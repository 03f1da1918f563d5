import Rollout.Cdp.Deployment
import Rollout.Proofs.Cdp.Manifest
import Rollout.Proofs.Deployments.Files
import Rollout.Proofs.Provision.Restart

/-!
Contract: one deployment that is no rehearsal, on a disk that holds the deployments
file.

Owns:
- deployments with any scenarios, inspections and backend in one site;
- the graph and the seeds that a deployment starts with;
- that a deployment makes the contracts of its provisioning and no others;
- what it leaves in the file: what provisioning recorded, also if that stopped early,
  or what was there if this cannot be recorded;
- `Attempt.unrecorded_of_array`: on a file that holds an array, a deployment makes all its
  contracts and then records none of them.

Does not own: several deployments one after the other.
-/

namespace Rollout.Cdp

open Provision

/-! ## The disk -/

/-- A backend beside a file. Calls go to the backend, and a text that is saved takes the
place of what the file holds. -/
def onDisk {σ : Type} (signer : String) (backend : Backend σ) :
    Responder Action Action.Answer (σ × FileState)
  | .connect _, state => (.ok signer, state)
  | .call call, (memory, file) =>
      let (answer, memory) := backend call memory
      (answer, (memory, file))
  | .save content, (memory, file) =>
      match file.save content with
      | .ok saved => (.ok (), (memory, saved))
      | .error fault => (.error fault, (memory, file))

def callRound? : Dialogue.Round Action Action.Answer → Option CallRound
  | ⟨.call call, answer⟩ => some ⟨call, answer⟩
  | _ => none

variable {σ α : Type} {signer : String} {backend : Backend σ} {memory : σ}
  {file : FileState}

/-- Calls as actions come to what the calls come to, if a backend answers them. -/
theorem play_onChain_of_responds
    {τ : Type}
    {responder : Responder Action Action.Answer τ}
    (around : σ → τ)
    (responds : ∀ call memory, responder (.call call) (around memory) =
      ((backend call memory).1, around (backend call memory).2))
    (exchange : Exchange α) :
    (onChain exchange).play responder (around memory) =
      let played := exchange.play backend memory
      ⟨played.value, played.questions.map Action.call, around played.state⟩ := by
  induction exchange generalizing memory with
  | done value => rfl
  | ask call next inductionHypothesis =>
      simp only [onChain, Dialogue.play_ask, responds, inductionHypothesis, List.map_cons]

private theorem play_onChain (exchange : Exchange α) :
    (onChain exchange).play (onDisk signer backend) (memory, file) =
      let played := exchange.play backend memory
      ⟨played.value, played.questions.map Action.call, (played.state, file)⟩ :=
  play_onChain_of_responds (fun memory => (memory, file)) (fun _ _ => rfl) exchange

private theorem callRounds_onChain (exchange : Exchange α) :
    ((onChain exchange).rounds (onDisk signer backend) (memory, file)).filterMap callRound? =
      exchange.rounds backend memory := by
  induction exchange generalizing memory with
  | done value => rfl
  | ask call next inductionHypothesis =>
      simp only [onChain, Dialogue.rounds, onDisk, List.filterMap_cons, callRound?,
        inductionHypothesis]

/-! ## What follows provisioning -/

/-- A call that makes no contract. -/
def Lasting (call : Call) : Prop :=
  call.operation ≠ .instantiate

private theorem contractsOf_eq_nil
    {rounds : List CallRound}
    (lasting : ∀ round ∈ rounds, Lasting round.question) :
    contractsOf rounds = [] := by
  refine List.filterMap_eq_nil_iff.mpr fun round member => ?_
  have noInstantiation := lasting round member
  obtain ⟨call, answer⟩ := round
  cases call with
  | instantiate codeId payload funds label => exact absurd rfl noInstantiation
  | _ => rfl

private theorem migrate_lasting
    (preparation : Configuration.Preparation)
    (registered : Configuration.Registered)
    (codeId : CodeId) :
    (Configuration.migrate preparation registered codeId).AsksOnly Lasting :=
  ⟨nofun, fun
    | .ok _ => trivial
    | .error _ => trivial⟩

theorem change_lasting
    (scope : Scope)
    (registered : Configuration.Registered)
    (change : Change) :
    (Configuration.change scope registered change).AsksOnly Lasting := by
  unfold Configuration.change
  split
  · trivial
  · rename_i preparation _
    split
    · exact ⟨nofun, fun
        | .ok _ => trivial
        | .error _ => trivial⟩
    · split
      · exact migrate_lasting preparation registered _
      · exact ⟨nofun, fun
          | .ok codeId => migrate_lasting preparation _ codeId
          | .error _ => trivial⟩

theorem applyFrom_lasting
    (scope : Scope)
    (index : Nat)
    (registered : Configuration.Registered)
    (changes : List Change) :
    (Configuration.applyFrom scope index registered changes).AsksOnly Lasting := by
  induction changes generalizing index registered with
  | nil => trivial
  | cons first rest inductionHypothesis =>
      exact (change_lasting scope registered first).bind fun (_, registered) =>
        (inductionHypothesis (index + 1) registered).bind fun _ => trivial

private theorem applyScenarios_lasting
    (scope : Scope)
    (artifactsDir : String)
    (scenarios : List Scenario) :
    (applyScenarios scope artifactsDir scenarios).AsksOnly Lasting := by
  induction scenarios with
  | nil => trivial
  | cons scenario rest inductionHypothesis =>
      exact (applyFrom_lasting scope 0 [] _).bind fun _ =>
        inductionHypothesis.bind fun _ => trivial

private theorem make_lasting
    (scope : Scope)
    (index : Nat)
    (inquiry : Inquiry) :
    (inquiry.make scope index).AsksOnly Lasting := by
  unfold Inquiry.make
  split
  · trivial
  · exact ⟨nofun, fun
      | .ok _ => trivial
      | .error _ => trivial⟩

private theorem makeFrom_lasting
    (scope : Scope)
    (index : Nat)
    (inquiries : List Inquiry) :
    (Inquiry.makeFrom scope index inquiries).AsksOnly Lasting := by
  induction inquiries generalizing index with
  | nil => trivial
  | cons first rest inductionHypothesis =>
      exact (make_lasting scope index first).bind fun _ =>
        (inductionHypothesis (index + 1)).bind fun _ => trivial

private theorem runInspections_lasting
    (scope : Scope)
    (inspections : List Inspection) :
    (runInspections scope inspections).AsksOnly Lasting := by
  induction inspections with
  | nil => trivial
  | cons inspection rest inductionHypothesis =>
      exact (makeFrom_lasting scope 0 _).bind fun _ =>
        inductionHypothesis.bind fun _ => trivial

/-- Scenarios and inspections make no contract. -/
private theorem configure_lasting
    (options : Options)
    (scope : Scope) :
    (configure options scope).AsksOnly Lasting :=
  (applyScenarios_lasting scope options.artifactsDir options.scenarios).bind fun _ =>
    (runInspections_lasting scope options.inspections).bind fun _ => trivial

private theorem configure_registry
    (options : Options)
    (scope : Scope)
    (backend : Backend σ)
    (memory : σ) :
    ((configure options scope).play backend memory).value.registry = scope.registry := by
  simp [configure, Dialogue.play_bind]

/-! ## Recording -/

/-- Whether a registry could be recorded in a file, and the file afterwards. -/
def recording
    (path : String)
    (registry : Registry)
    (file : FileState) :
    Except DeploymentFault Unit × FileState :=
  match Deployments.write path registry file with
  | .ok saved => (.ok (), saved)
  | .error fault => (.error (.deployments fault), file)

private theorem play_persist
    {options : Options}
    (live : options.dryRun = false)
    (registry : Registry) :
    let played := (persist options file registry).play (onDisk signer backend) (memory, file)
    played.value = (recording options.deploymentsPath registry file).1 ∧
      played.state = (memory, (recording options.deploymentsPath registry file).2) := by
  unfold persist recording Deployments.write
  rw [live]
  cases Deployments.updated options.deploymentsPath registry file with
  | error fault => exact ⟨rfl, rfl⟩
  | ok content =>
      cases saving : file.save content with
      | ok saved => simp [Dialogue.play_ask, onDisk, saving]
      | error fault => simp [Dialogue.play_ask, onDisk, saving]

private theorem callRounds_persist
    (options : Options)
    (registry : Registry)
    (state : σ × FileState) :
    ((persist options file registry).rounds (onDisk signer backend) state).filterMap
      callRound? = [] := by
  -- A save is the only action there is, and it is no call.
  have noCalls : (persist options file registry).AsksOnly fun action =>
      ∃ content, action = .save content := by
    unfold persist
    split
    · trivial
    · split
      · trivial
      · exact ⟨⟨_, rfl⟩, fun
          | .ok _ => trivial
          | .error _ => trivial⟩
  refine List.filterMap_eq_nil_iff.mpr fun round member => ?_
  obtain ⟨content, saves⟩ := noCalls.allowed_of_mem_rounds member
  obtain ⟨action, answer⟩ := round
  subst saves
  rfl

/-! ## The start of a deployment -/

/-- A deployment starts with the manifest, if the file and the environment give seeds. -/
theorem plan_eq (options : Options) (environment : Environment) (file : FileState) :
    plan options environment file =
      match Deployments.seeds file with
      | .error fault => .error (.deployments fault)
      | .ok known =>
          match overlayEnvironment environment (manifest options.artifactsDir).names known with
          | .error (fault, _) => .error (.invalidSeed fault)
          | .ok seeds => .ok (manifest options.artifactsDir, seeds) := by
  rewrite [plan, graph_eq]
  rfl

/-! ## The end of a deployment -/

def conclude
    (options : Options)
    (bindings : Variables)
    (file : FileState) :
    Except Aborted Registry → Procedure (Except DeploymentFault Report)
  | .error aborted =>
      (persist options file aborted.registry).bind fun _ =>
        .done (.error (.provisioning aborted))
  | .ok registry =>
      (persist options file registry).bind fun
      | .error fault => .done (.error fault)
      | .ok () =>
          (onChain (configure options ⟨registry, bindings⟩)).bind fun report =>
            .done (.ok report)

theorem deploy_of_plan
    {options : Options}
    {environment : Environment}
    {graph : Graph}
    {seeds : Seeds}
    (planned : plan options environment file = .ok (graph, seeds))
    (config : Config)
    (deployer : String) :
    deploy options config environment file deployer =
      (onChain (provision graph seeds (config.bindings deployer))).bind
        (conclude options (config.bindings deployer) file) := by
  rw [deploy, planned]
  -- Both sides go on with what provisioning came to, so only that is left to tell apart.
  refine congrArg (onChain (provision graph seeds (config.bindings deployer))).bind
    (funext fun outcome => ?_)
  cases outcome <;> rfl

section Conclusion

variable {options : Options} {bindings : Variables}

/-- No contract is made once provisioning is over. -/
private theorem contractsOf_conclude
    (outcome : Except Aborted Registry)
    (state : σ × FileState) :
    contractsOf (((conclude options bindings file outcome).rounds
      (onDisk signer backend) state).filterMap callRound?) = [] := by
  cases outcome with
  | error aborted =>
      rw [conclude, Dialogue.rounds_bind, List.filterMap_append, callRounds_persist]
      rfl
  | ok registry =>
      rw [conclude, Dialogue.rounds_bind, List.filterMap_append, callRounds_persist]
      simp only [List.nil_append]
      generalize (persist options file registry).play (onDisk signer backend) state = persisted
      obtain ⟨result, _, memory, saved⟩ := persisted
      cases result with
      | error fault => rfl
      | ok done =>
          simp only [Dialogue.rounds_bind, List.filterMap_append, callRounds_onChain]
          have lasting := configure_lasting options ⟨registry, bindings⟩
          rw [contractsOf_append, contractsOf_eq_nil fun _ => lasting.allowed_of_mem_rounds]
          rfl

/-- The file has on record what provisioning recorded, unless this cannot be recorded. -/
private theorem file_conclude
    (live : options.dryRun = false)
    (outcome : Except Aborted Registry) :
    ((conclude options bindings file outcome).play (onDisk signer backend)
      (memory, file)).state.2 =
      (recording options.deploymentsPath (recorded outcome) file).2 := by
  cases outcome with
  | error aborted =>
      simp [conclude, Dialogue.play_bind, play_persist live, recorded]
  | ok registry =>
      simp only [conclude, Dialogue.play_bind, play_persist live, recorded]
      split
      · rfl
      · rw [Dialogue.play_bind, play_onChain]
        rfl

def liveContracts : Except DeploymentFault Report → Registry
  | .ok report => report.registry
  | .error (.provisioning aborted) => aborted.registry
  | .error _ => Registry.empty

/-- A deployment ends as its provisioning did, with the same registry or fault. -/
inductive EndsAs : Except DeploymentFault Report → Except Aborted Registry → Prop where
  | complete (report : Report) : EndsAs (.ok report) (.ok report.registry)
  | stopped (aborted : Aborted) : EndsAs (.error (.provisioning aborted)) (.error aborted)

theorem EndsAs.liveContracts_eq
    {value : Except DeploymentFault Report}
    {outcome : Except Aborted Registry}
    (endsAs : EndsAs value outcome) :
    liveContracts value = recorded outcome := by
  cases endsAs <;> rfl

/-- If what provisioning recorded can be recorded in the file, a deployment ends as its
provisioning did. -/
private theorem value_conclude
    (live : options.dryRun = false)
    (outcome : Except Aborted Registry)
    (written : (recording options.deploymentsPath (recorded outcome) file).1 = .ok ()) :
    EndsAs ((conclude options bindings file outcome).play (onDisk signer backend)
      (memory, file)).value outcome := by
  cases outcome with
  | error aborted =>
      simp only [conclude, Dialogue.play_bind]
      exact .stopped aborted
  | ok registry =>
      change (recording options.deploymentsPath registry file).1 = .ok () at written
      simp only [conclude, Dialogue.play_bind, play_persist live, written, play_onChain]
      have sameRegistry := configure_registry options ⟨registry, bindings⟩ backend memory
      generalize ((configure options ⟨registry, bindings⟩).play backend memory).value = report
        at sameRegistry
      cases sameRegistry
      exact .complete report

private theorem value_conclude_of_unwritten
    {fault : DeploymentFault}
    (live : options.dryRun = false)
    (registry : Registry)
    (unwritten : (recording options.deploymentsPath registry file).1 = .error fault) :
    ((conclude options bindings file (.ok registry)).play (onDisk signer backend)
      (memory, file)).value = .error fault := by
  simp only [conclude, Dialogue.play_bind, play_persist live, unwritten]
  rfl

private theorem written_of_conclude
    {report : Report}
    (live : options.dryRun = false)
    (outcome : Except Aborted Registry)
    (finished : ((conclude options bindings file outcome).play (onDisk signer backend)
      (memory, file)).value = .ok report) :
    (recording options.deploymentsPath (recorded outcome) file).1 = .ok () := by
  cases outcome with
  | error aborted =>
      simp only [conclude, Dialogue.play_bind] at finished
      cases finished
  | ok registry =>
      show (recording options.deploymentsPath registry file).1 = .ok ()
      cases unwritten : (recording options.deploymentsPath registry file).1 with
      | ok done => rfl
      | error fault =>
          rw [value_conclude_of_unwritten live registry unwritten] at finished
          cases finished

end Conclusion

/-! ## Deployments on a disk -/

/-- What deployments have in common. -/
structure Site where
  deploymentsPath : String
  artifactsDir : String
  environment : Environment

/-- A deployment to come, with a backend and what that remembers. -/
structure Attempt where
  scenarios : List Scenario
  inspections : List Inspection
  seidBinary : String
  gasPrices : String
  config : Config
  /-- The address that signs. -/
  deployer : String
  Memory : Type
  backend : Backend Memory
  memory : Memory

structure Run where
  value : Except DeploymentFault Report
  /-- The calls with their answers, in order. -/
  calls : List CallRound
  /-- The file at the end. -/
  file : FileState

namespace Run

def registry (run : Run) : Registry :=
  liveContracts run.value

def contracts (run : Run) : List NewContract :=
  contractsOf run.calls

end Run

namespace Attempt

def options (attempt : Attempt) (site : Site) : Options :=
  ⟨site.deploymentsPath, site.artifactsDir, attempt.scenarios, attempt.inspections,
    false, attempt.seidBinary, attempt.gasPrices⟩

def provisioning (attempt : Attempt) : Provision.Attempt :=
  ⟨attempt.config.bindings attempt.deployer, attempt.Memory, attempt.backend, attempt.memory⟩

def run (attempt : Attempt) (site : Site) (file : FileState) : Run :=
  let procedure := deploy (attempt.options site) attempt.config site.environment file
    attempt.deployer
  let disk := onDisk attempt.deployer attempt.backend
  let played := procedure.play disk (attempt.memory, file)
  ⟨played.value, (procedure.rounds disk (attempt.memory, file)).filterMap callRound?,
    played.state.2⟩

variable {attempt : Attempt} {site : Site} {graph : Graph} {seeds : Seeds}

theorem run_of_plan_error
    {fault : DeploymentFault}
    (planned : plan (attempt.options site) site.environment file = .error fault) :
    attempt.run site file = ⟨.error fault, [], file⟩ := by
  have nothing : deploy (attempt.options site) attempt.config site.environment file
      attempt.deployer = .done (.error fault) := by
    rw [deploy, planned]
  rw [run, nothing]
  rfl

/-- A deployment is its provisioning and what it does when that is over. -/
theorem run_of_plan
    (planned : plan (attempt.options site) site.environment file = .ok (graph, seeds)) :
    let outcome := attempt.provisioning.outcome graph seeds
    let disk := onDisk attempt.deployer attempt.backend
    ∃ memory : attempt.Memory,
      let conclusion := conclude (attempt.options site)
        (attempt.config.bindings attempt.deployer) file outcome.value
      let concluded := conclusion.play disk (memory, file)
      attempt.run site file =
        ⟨concluded.value,
          outcome.rounds ++ (conclusion.rounds disk (memory, file)).filterMap callRound?,
          concluded.state.2⟩ := by
  refine ⟨((provision graph seeds (attempt.config.bindings attempt.deployer)).play
    attempt.backend attempt.memory).state, ?_⟩
  rw [run, deploy_of_plan planned]
  simp only [Dialogue.play_bind, Dialogue.rounds_bind, List.filterMap_append,
    callRounds_onChain, play_onChain, provisioning, Provision.Attempt.outcome]

theorem contracts_of_plan
    (planned : plan (attempt.options site) site.environment file = .ok (graph, seeds)) :
    (attempt.run site file).contracts =
      contractsOf (attempt.provisioning.outcome graph seeds).rounds := by
  obtain ⟨memory, isRun⟩ := run_of_plan planned
  rw [isRun, Run.contracts, contractsOf_append, contractsOf_conclude, List.append_nil]

/-- After a deployment the file has on record what its provisioning recorded, unless
this cannot be recorded. -/
theorem file_of_plan
    (planned : plan (attempt.options site) site.environment file = .ok (graph, seeds)) :
    (attempt.run site file).file =
      (recording site.deploymentsPath
        (attempt.provisioning.outcome graph seeds).registry file).2 := by
  obtain ⟨memory, isRun⟩ := run_of_plan planned
  rw [isRun]
  exact file_conclude rfl _

theorem value_of_plan
    {saved : FileState}
    (planned : plan (attempt.options site) site.environment file = .ok (graph, seeds))
    (written : Deployments.write site.deploymentsPath
      (attempt.provisioning.outcome graph seeds).registry file = .ok saved) :
    EndsAs (attempt.run site file).value (attempt.provisioning.outcome graph seeds).value := by
  obtain ⟨memory, isRun⟩ := run_of_plan planned
  have inFile : (recording site.deploymentsPath
      (attempt.provisioning.outcome graph seeds).registry file).1 = .ok () := by
    rw [recording, written]
  rw [isRun]
  exact value_conclude rfl _ inFile

theorem exists_write_of_ok
    {report : Report}
    (planned : plan (attempt.options site) site.environment file = .ok (graph, seeds))
    (finished : (attempt.run site file).value = .ok report) :
    ∃ saved, Deployments.write site.deploymentsPath
      (attempt.provisioning.outcome graph seeds).registry file = .ok saved := by
  obtain ⟨memory, isRun⟩ := run_of_plan planned
  rw [isRun] at finished
  have inFile := written_of_conclude rfl _ finished
  change (recording site.deploymentsPath
    (attempt.provisioning.outcome graph seeds).registry file).1 = .ok () at inFile
  unfold recording at inFile
  split at inFile
  · rename_i saved written
    exact ⟨saved, written⟩
  · cases inFile

/-- A deployment on a file that holds an array makes its contracts and then cannot record
them. -/
theorem unrecorded_of_array
    {items : List Json}
    (planned : plan (attempt.options site) site.environment file = .ok (graph, seeds))
    (held : Deployments.value file = .ok (.array items)) :
    (attempt.run site file).contracts =
        contractsOf (attempt.provisioning.outcome graph seeds).rounds ∧
      (attempt.run site file).file = file ∧
      ∀ registry, (attempt.provisioning.outcome graph seeds).value = .ok registry →
        (attempt.run site file).value =
          .error (.deployments (.write (.noRecord site.deploymentsPath))) := by
  have refused (registry : Registry) : recording site.deploymentsPath registry file =
      (.error (.deployments (.write (.noRecord site.deploymentsPath))), file) := by
    rw [recording, Deployments.write_array held]
  refine ⟨contracts_of_plan planned, ?_, ?_⟩
  · rw [file_of_plan planned, refused]
  · intro registry finished
    obtain ⟨memory, isRun⟩ := run_of_plan planned
    rw [isRun, finished]
    exact value_conclude_of_unwritten rfl registry (congrArg Prod.fst (refused registry))

end Attempt

end Rollout.Cdp
