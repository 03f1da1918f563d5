import Rollout.Proofs.Cdp.Actions
import Rollout.Proofs.Cdp.Seeding

/-!
Contract: the phases of a deployment, and what was done when it ends in one of them.

Owns:
- the required values that an environment lacks, without which nothing is done;
- how a deployment can end, with its actions and the file at the end;
- that the phases follow each other, each only if the one before worked, whoever
  answers.

Does not own: the calls within provisioning, scenarios and inspections.
-/

namespace Rollout

/-! ## Required values -/

/-- A variable is absent or empty. -/
def Environment.Lacks (environment : Environment) (name : String) : Prop :=
  environment name = none ∨ environment name = some ""

instance (environment : Environment) (name : String) : Decidable (environment.Lacks name) :=
  inferInstanceAs (Decidable (_ ∨ _))

private theorem Environment.get?_eq_none_iff {environment : Environment} {name : String} :
    environment.get? name = none ↔ environment.Lacks name := by
  unfold Environment.get? Environment.Lacks
  cases environment name <;> simp [Option.filter_some]

private theorem Environment.missing_eq (environment : Environment) (names : List String) :
    environment.missing names = names.filter fun name => environment.Lacks name := by
  refine List.filter_congr fun name _ => ?_
  rw [Bool.eq_iff_iff, Option.isNone_iff_eq_none, decide_eq_true_iff]
  exact Environment.get?_eq_none_iff

/-- Values that are required at once are refused with the names of all that are absent
or empty. -/
theorem Environment.require_of_lacks
    {environment : Environment}
    {names : List String}
    {name : String}
    (required : name ∈ names)
    (lacks : environment.Lacks name) :
    environment.require names =
      .error ⟨names.filter fun name => environment.Lacks name⟩ := by
  have listed : name ∈ environment.missing names := by
    rw [missing_eq]
    exact List.mem_filter.mpr ⟨required, by simpa using lacks⟩
  unfold require
  split
  · rename_i none
    rw [none] at listed
    cases listed
  · rw [missing_eq]

namespace Cdp

open Dialogue (Path InTurn)

/-- If a required value is absent or empty, a run ends with the names of all that are, and
does nothing. -/
private theorem run_of_lacks
    {environment : Environment}
    {name : String}
    (required : name ∈ requiredNames)
    (lacks : environment.Lacks name)
    (options : Options)
    (file : FileState) :
    run options environment file =
      .done (.error (.missingConfiguration
        ⟨requiredNames.filter fun name => environment.Lacks name⟩)) := by
  rw [run, Config.ofEnvironment, Environment.require_of_lacks required lacks]

variable {options : Options} {config : Config} {bindings : Variables}
  {environment : Environment} {file after : FileState} {deployer : String}
  {registry : Registry} {seeds : Seeds} {graph : Graph} {calls : List CallRound}
  {rounds saves : List ActionRound} {value : Except DeploymentFault Report}

/-! ## The end of a deployment -/

/-- The actions after provisioning, what the deployment comes to, and the file at the
end. -/
inductive Concluded (options : Options) (bindings : Variables) (file : FileState) :
    Except Aborted Registry → List ActionRound → Except DeploymentFault Report →
      FileState → Prop where
  /-- What was provisioned before a stop is recorded. The stop is the fault also if this
  does not work. -/
  | aborted {aborted : Aborted} {saves : List ActionRound}
      {result : Except DeploymentFault Unit} {after : FileState}
      (persisted : Persisted options file aborted.registry saves result after) :
      Concluded options bindings file (.error aborted) saves
        (.error (.provisioning aborted)) after
  /-- A registry that cannot be recorded ends the deployment. -/
  | unrecorded {registry : Registry} {saves : List ActionRound} {fault : DeploymentFault}
      {after : FileState}
      (persisted : Persisted options file registry saves (.error fault) after) :
      Concluded options bindings file (.ok registry) saves (.error fault) after
  /-- The scenarios follow in their order, then the inspections in theirs. What fails in
  them is counted. -/
  | complete {registry : Registry} {saves : List ActionRound} {after : FileState}
      {changes queries : List CallRound}
      {changed : List (List (Except ChangeFault ChangeOutcome))}
      {answered : List (List InquiryResult)}
      (persisted : Persisted options file registry saves (.ok ()) after)
      (changing : InTurn
        (options.scenarios.map fun scenario =>
          applyChanges ⟨registry, bindings⟩ (scenario.changes options.artifactsDir))
        changes changed)
      (asking : InTurn
        (options.inspections.map fun inspection =>
          makeInquiries ⟨registry, bindings⟩ inspection.inquiries)
        queries answered) :
      Concluded options bindings file (.ok registry)
        (saves ++ (changes ++ queries).map acted)
        (.ok ⟨registry, (changed.map failures).sum, (answered.map unanswered).sum⟩) after

private theorem exists_inTurn_of_configure
    {scope : Scope}
    {report : Report}
    (path : Path (configure options scope) calls report) :
    ∃ changes queries changed answered,
      calls = changes ++ queries ∧
        InTurn (options.scenarios.map fun scenario =>
          applyChanges scope (scenario.changes options.artifactsDir)) changes changed ∧
        InTurn (options.inspections.map fun inspection =>
          makeInquiries scope inspection.inquiries) queries answered ∧
        report = ⟨scope.registry, (changed.map failures).sum, (answered.map unanswered).sum⟩ := by
  obtain ⟨changes, failedChanges, others, rfl, changing, rest⟩ := Dialogue.path_bind_iff.mp path
  obtain ⟨queries, failedInquiries, none, rfl, asking, finished⟩ :=
    Dialogue.path_bind_iff.mp rest
  obtain ⟨rfl, rfl⟩ := Dialogue.path_done_iff.mp finished
  obtain ⟨changed, changesInTurn, rfl⟩ :=
    Dialogue.inTurn_of_path rfl (fun _ _ => rfl) changing
  obtain ⟨answered, queriesInTurn, rfl⟩ :=
    Dialogue.inTurn_of_path rfl (fun _ _ => rfl) asking
  rw [List.append_nil]
  exact ⟨changes, queries, changed, answered, rfl, changesInTurn, queriesInTurn, rfl⟩

private theorem concluded_of_path
    {outcome : Except Aborted Registry}
    (path : Path (conclude options bindings file outcome) rounds value) :
    Concluded options bindings file outcome rounds value (fileAfter file rounds) := by
  cases outcome with
  | error aborted =>
      obtain ⟨saves, result, none, rfl, persisting, finished⟩ := Dialogue.path_bind_iff.mp path
      obtain ⟨rfl, rfl⟩ := Dialogue.path_done_iff.mp finished
      rw [List.append_nil]
      exact .aborted (persisted_of_path persisting)
  | ok registry =>
      obtain ⟨saves, result, later, rfl, persisting, rest⟩ := Dialogue.path_bind_iff.mp path
      have persisted := persisted_of_path persisting
      cases result with
      | error fault =>
          obtain ⟨rfl, rfl⟩ := Dialogue.path_done_iff.mp rest
          rw [List.append_nil]
          exact .unrecorded persisted
      | ok done =>
          obtain ⟨acts, report, none, rfl, configuring, finished⟩ :=
            Dialogue.path_bind_iff.mp rest
          obtain ⟨rfl, rfl⟩ := Dialogue.path_done_iff.mp finished
          obtain ⟨calls, rfl, callPath⟩ := path_onChain_iff.mp configuring
          obtain ⟨changes, queries, changed, answered, rfl, changing, asking, rfl⟩ :=
            exists_inTurn_of_configure callPath
          rw [List.append_nil, fileAfter_append, fileAfter_calls]
          exact .complete persisted changing asking

/-! ## Whole deployments -/

/-- What provisioning starts from: the seeds of the environment over those of the file. -/
def StartsWith
    (options : Options)
    (environment : Environment)
    (file : FileState)
    (seeds : Seeds) :
    Prop :=
  ∃ known, Deployments.seeds file = .ok known ∧
    overlayEnvironment environment (manifest options.artifactsDir).names known = .ok seeds

private theorem StartsWith.readable
    {fault : DeploymentsFault}
    (starts : StartsWith options environment file seeds) :
    Deployments.seeds file ≠ .error fault := by
  obtain ⟨known, read, _⟩ := starts
  rw [read]
  exact nofun

/-- No variable that gives a seed is invalid. -/
private theorem StartsWith.valid
    {name : String}
    (starts : StartsWith options environment file seeds)
    (inManifest : name ∈ (manifest options.artifactsDir).names) :
    ¬ InvalidCodeId environment name := by
  obtain ⟨known, _, overlaid⟩ := starts
  obtain ⟨given, gives⟩ := exists_overlayEnvironment_iff.mp ⟨seeds, overlaid⟩ name inManifest
  rw [invalidCodeId_iff, gives]
  exact nofun

private theorem StartsWith.unique
    {others : Seeds}
    (starts : StartsWith options environment file seeds)
    (startsAgain : StartsWith options environment file others) :
    seeds = others := by
  obtain ⟨known, read, overlaid⟩ := starts
  obtain ⟨_, readAgain, overlaidAgain⟩ := startsAgain
  cases read.symm.trans readAgain
  exact Except.ok.inj (overlaid.symm.trans overlaidAgain)

/-- The actions of a deployment, what it comes to, and the file at the end. -/
inductive Deployed
    (options : Options)
    (config : Config)
    (environment : Environment)
    (file : FileState)
    (deployer : String) :
    List ActionRound → Except DeploymentFault Report → FileState → Prop where
  | unreadable {fault : DeploymentsFault}
      (unread : Deployments.seeds file = .error fault) :
      Deployed options config environment file deployer [] (.error (.deployments fault)) file
  | invalidSeed {known : Seeds} {name : String} {fault : SeedFault}
      (read : Deployments.seeds file = .ok known)
      (first : IsFirst (InvalidCodeId environment) (manifest options.artifactsDir).names name)
      (invalid : environmentCodeId environment name = .error fault) :
      Deployed options config environment file deployer [] (.error (.invalidSeed fault)) file
  | provisioned {seeds : Seeds} {calls : List CallRound} {outcome : Except Aborted Registry}
      {later : List ActionRound} {value : Except DeploymentFault Report} {after : FileState}
      (starts : StartsWith options environment file seeds)
      (provisioning : Path
        (provision (manifest options.artifactsDir) seeds (config.bindings deployer))
        calls outcome)
      (concluded : Concluded options (config.bindings deployer) file outcome later value after) :
      Deployed options config environment file deployer (calls.map acted ++ later) value after

/-- Whoever answers, a deployment goes through its phases in order, up to the one that
fails. -/
theorem deployed_of_path
    (path : Path (deploy options config environment file deployer) rounds value) :
    Deployed options config environment file deployer rounds value (fileAfter file rounds) := by
  cases read : Deployments.seeds file with
  | error fault =>
      have planned : plan options environment file = .error (.deployments fault) := by
        rw [plan_eq, read]
      rw [deploy, planned] at path
      obtain ⟨rfl, rfl⟩ := Dialogue.path_done_iff.mp path
      exact .unreadable read
  | ok known =>
      cases overlaid : overlayEnvironment environment (manifest options.artifactsDir).names
          known with
      | error stop =>
          obtain ⟨fault, stopped⟩ := stop
          have planned : plan options environment file = .error (.invalidSeed fault) := by
            simp only [plan_eq, read, overlaid]
          rw [deploy, planned] at path
          obtain ⟨rfl, rfl⟩ := Dialogue.path_done_iff.mp path
          obtain ⟨name, first, invalid⟩ := exists_isFirst_of_overlayEnvironment overlaid
          exact .invalidSeed read first invalid
      | ok seeds =>
          have planned : plan options environment file =
              .ok (manifest options.artifactsDir, seeds) := by
            simp only [plan_eq, read, overlaid]
          rw [deploy_of_plan planned] at path
          obtain ⟨acts, outcome, later, rfl, provisioning, concluding⟩ :=
            Dialogue.path_bind_iff.mp path
          obtain ⟨calls, rfl, callPath⟩ := path_onChain_iff.mp provisioning
          rw [fileAfter_append, fileAfter_calls]
          exact .provisioned ⟨known, read, overlaid⟩ callPath (concluded_of_path concluding)

/-- The phases before and in provisioning are decided by what was answered first, so a
deployment goes on from there in one way. -/
theorem Deployed.exists_concluded
    {outcome : Except Aborted Registry}
    (deployed : Deployed options config environment file deployer rounds value after)
    (starts : StartsWith options environment file seeds)
    (provisioning : Path
      (provision (manifest options.artifactsDir) seeds (config.bindings deployer))
      calls outcome)
    (begins : calls.map acted <+: rounds) :
    ∃ later, rounds = calls.map acted ++ later ∧
      Concluded options (config.bindings deployer) file outcome later value after := by
  cases deployed with
  | unreadable unread => exact absurd unread starts.readable
  | invalidSeed _ first _ => exact absurd first.holds_item (starts.valid first.mem)
  | @provisioned _ others otherOutcome later _ _ startsAgain provisioningAgain concluded =>
      cases starts.unique startsAgain
      have onChainPath := path_onChain_iff.mpr ⟨calls, rfl, provisioning⟩
      have otherPath := path_onChain_iff.mpr ⟨others, rfl, provisioningAgain⟩
      obtain ⟨sameCalls, rfl⟩ :=
        onChainPath.eq_of_prefix otherPath begins (List.prefix_append _ _)
      rw [sameCalls]
      exact ⟨later, rfl, concluded⟩

private theorem Deployed.not_late_or_exists_report
    (deployed : Deployed options config environment file deployer rounds value after) :
    (∀ round ∈ rounds, ¬ Late round) ∨ ∃ report, value = .ok report := by
  cases deployed with
  | unreadable _ => exact .inl nofun
  | invalidSeed _ _ _ => exact .inl nofun
  | provisioned _ provisioning concluded =>
      have founding := not_late_of_provision provisioning
      cases concluded with
      | aborted persisted =>
          exact .inl (List.forall_mem_append.mpr ⟨founding, persisted.not_late⟩)
      | unrecorded persisted =>
          exact .inl (List.forall_mem_append.mpr ⟨founding, persisted.not_late⟩)
      | complete _ _ _ => exact .inr ⟨_, rfl⟩

/-- A deployment succeeds exactly if provisioning comes to its end and its registry can be
recorded. -/
theorem Deployed.ok_iff
    (deployed : Deployed options config environment file deployer rounds value after) :
    (∃ report, value = .ok report) ↔
      ∃ seeds calls registry saves,
        StartsWith options environment file seeds ∧
          Path (provision (manifest options.artifactsDir) seeds (config.bindings deployer))
            calls (.ok registry) ∧
          Persisted options file registry saves (.ok ()) after ∧
          calls.map acted ++ saves <+: rounds := by
  constructor
  · rintro ⟨report, rfl⟩
    cases deployed with
    | provisioned starts provisioning concluded =>
        cases concluded with
        | complete persisted _ _ =>
            refine ⟨_, _, _, _, starts, provisioning, persisted, ?_⟩
            rw [← List.append_assoc]
            exact List.prefix_append _ _
  · rintro ⟨seeds, calls, registry, saves, starts, provisioning, persisted, begins⟩
    have callsBegin := (List.prefix_append _ saves).trans begins
    obtain ⟨later, rfl, concluded⟩ :=
      deployed.exists_concluded starts provisioning callsBegin
    have savesBegin : saves <+: later := (List.prefix_append_right_inj _).mp begins
    cases concluded with
    | complete _ _ _ => exact ⟨_, rfl⟩
    | unrecorded unpersisted =>
        -- The same recording cannot both work and fail.
        have same := persisted.path.eq_of_prefix unpersisted.path savesBegin
          (List.prefix_refl _)
        cases same.2

/-- The phases of a deployment follow each other, each only if the one before worked. -/
structure InOrder
    (options : Options)
    (config : Config)
    (environment : Environment)
    (file : FileState)
    (deployer : String)
    (rounds : List ActionRound)
    (value : Except DeploymentFault Report) :
    Prop where
  /-- The actions are those of the phases, one after the other, up to the one that fails. -/
  deployed : Deployed options config environment file deployer rounds value
    (fileAfter file rounds)
  /-- If the deployments file cannot be read, nothing is done. -/
  unreadable : ∀ fault, Deployments.seeds file = .error fault →
    rounds = [] ∧ value = .error (.deployments fault)
  /-- Nor is anything if a variable of the environment is no code id. The first one is the
  fault. -/
  invalidSeed : ∀ known, Deployments.seeds file = .ok known →
    ∀ name ∈ (manifest options.artifactsDir).names, InvalidCodeId environment name →
      rounds = [] ∧ ∃ first fault,
        IsFirst (InvalidCodeId environment) (manifest options.artifactsDir).names first ∧
          environmentCodeId environment first = .error fault ∧
            value = .error (.invalidSeed fault)
  /-- If provisioning stops, that is the fault whether or not its registry can be recorded,
  and nothing is executed, migrated or queried. -/
  aborted : ∀ seeds calls aborted, StartsWith options environment file seeds →
    Path (provision (manifest options.artifactsDir) seeds (config.bindings deployer))
      calls (.error aborted) →
    calls.map acted <+: rounds →
      value = .error (.provisioning aborted) ∧ (∀ round ∈ rounds, ¬ Late round) ∧
        ∃ saves result, rounds = calls.map acted ++ saves ∧
          Persisted options file aborted.registry saves result (fileAfter file rounds)
  /-- Something is executed, migrated or queried only in a deployment that succeeds. -/
  late : ∀ round ∈ rounds, Late round → ∃ report, value = .ok report
  /-- A deployment succeeds exactly if provisioning comes to its end and its registry can
  be recorded, whatever fails afterwards. -/
  ok_iff : (∃ report, value = .ok report) ↔
    ∃ seeds calls registry saves,
      StartsWith options environment file seeds ∧
        Path (provision (manifest options.artifactsDir) seeds (config.bindings deployer))
          calls (.ok registry) ∧
        Persisted options file registry saves (.ok ()) (fileAfter file rounds) ∧
        calls.map acted ++ saves <+: rounds

private theorem inOrder_of_path
    (path : Path (deploy options config environment file deployer) rounds value) :
    InOrder options config environment file deployer rounds value := by
  have deployed := deployed_of_path path
  refine ⟨deployed, ?_, ?_, ?_, ?_, deployed.ok_iff⟩
  · intro fault unread
    cases deployed with
    | unreadable unreadAgain =>
        cases unread.symm.trans unreadAgain
        exact ⟨rfl, rfl⟩
    | invalidSeed read _ _ => cases unread.symm.trans read
    | provisioned starts _ _ => exact absurd unread starts.readable
  · intro known read name inManifest invalid
    cases deployed with
    | unreadable unread => cases read.symm.trans unread
    | invalidSeed _ first firstInvalid => exact ⟨rfl, _, _, first, firstInvalid, rfl⟩
    | provisioned starts _ _ => exact absurd invalid (starts.valid inManifest)
  · intro seeds calls aborted starts provisioning begins
    obtain ⟨later, isLater, concluded⟩ := deployed.exists_concluded starts provisioning begins
    cases concluded with
    | aborted persisted =>
        refine ⟨rfl, ?_, later, _, isLater, persisted⟩
        rw [isLater]
        exact List.forall_mem_append.mpr ⟨not_late_of_provision provisioning, persisted.not_late⟩
  · intro round member late
    rcases deployed.not_late_or_exists_report with notLate | succeeds
    · exact absurd late (notLate round member)
    · exact succeeds

/-- Without a required value a run does nothing, and says which values are absent or empty.
The phases of a deployment follow each other, whoever carries out its actions and however
these are answered. On a disk the file at the end is the one that the actions leave. -/
theorem effects_in_order
    (options : Options)
    (environment : Environment)
    (file : FileState) :
    ((∃ name ∈ requiredNames, environment.Lacks name) →
        run options environment file =
          .done (.error (.missingConfiguration
            ⟨requiredNames.filter fun name => environment.Lacks name⟩))) ∧
      ∀ (config : Config) (deployer : String),
        let procedure := deploy options config environment file deployer
        (∀ (σ : Type) (world : Responder Action Action.Answer σ) (state : σ),
          InOrder options config environment file deployer
            (procedure.rounds world state) (procedure.play world state).value) ∧
        ∀ (σ : Type) (backend : Backend σ) (memory : σ),
          let disk := onDisk deployer backend
          (procedure.play disk (memory, file)).state.2 =
            fileAfter file (procedure.rounds disk (memory, file)) := by
  refine ⟨?_, fun config deployer => ⟨?_, ?_⟩⟩
  · rintro ⟨name, required, lacks⟩
    exact run_of_lacks required lacks options file
  · intro σ world state
    exact inOrder_of_path (Dialogue.path_rounds world _ state)
  · intro σ backend memory
    exact file_onDisk _ memory file

end Cdp

end Rollout
