import Rollout.Proofs.Backend.Simulated
import Rollout.Proofs.Cdp.Closure
import Rollout.Proofs.Cdp.Deployment
import Rollout.Proofs.Coin.RoundTrip
import Rollout.Proofs.Configuration.Splitting
import Rollout.Proofs.Template.Targets

/-!
Contract: the failures that a rehearsal reports.

Owns:
- the addresses of the contracts on a simulated chain, which only instantiations change;
- which changes a simulated chain refuses: migrations of contracts that are not on it;
- what a rehearsal comes to once its provisioning is complete: no inquiry fails, and the
  changes that fail are migrations of contracts that were on record before.

Does not own: provisionings that stop early.
-/

namespace Rollout

namespace SimulatedChain

open Cdp (Lasting)
open Provision (NewContract contract? contractsOf)

variable {chain : SimulatedChain} {call : Call} {α : Type} {exchange : Exchange α}

/-! ## Addresses on a chain -/

def addresses (chain : SimulatedChain) : List String :=
  chain.contracts.map Prod.fst

private theorem addresses_respond (lasting : Lasting call) :
    (respond call chain).2.addresses = chain.addresses := by
  cases call with
  | registerArtifact artifact => rfl
  | instantiate codeId payload funds label => exact absurd rfl lasting
  | execute address payload funds => rfl
  | query address payload => rfl
  | migrate address codeId payload =>
      have createsNothing : creates (.migrate address codeId payload) = false := rfl
      exact (alike_of_not_creates createsNothing chain).addresses

/-- Whoever instantiates nothing leaves the addresses as they are. -/
theorem addresses_play (lasting : exchange.AsksOnly Lasting) (chain : SimulatedChain) :
    (exchange.play respond chain).state.addresses = chain.addresses := by
  induction exchange generalizing chain with
  | done value => rfl
  | ask call next inductionHypothesis =>
      rw [Dialogue.play_ask]
      exact (inductionHypothesis _ (lasting.2 _) _).trans (addresses_respond lasting.1)

private theorem state_play :
    (exchange.play respond chain).state =
      chain.after (exchange.play respond chain).questions := by
  induction exchange generalizing chain with
  | done value => rfl
  | ask call next inductionHypothesis =>
      rw [Dialogue.play_ask]
      exact inductionHypothesis _

private theorem newAddresses_eq (rounds : List CallRound) :
    newAddresses rounds = (contractsOf rounds).map NewContract.address := by
  rw [newAddresses, contractsOf, List.map_filterMap]
  refine List.filterMap_congr fun round _ => ?_
  obtain ⟨call, answer⟩ := round
  cases call with
  | instantiate codeId payload funds label => cases answer <;> rfl
  | _ => rfl

/-- The contracts on a chain that was empty are those that were made. -/
theorem addresses_play_empty :
    (exchange.play respond empty).state.addresses =
      (contractsOf (exchange.rounds respond empty)).map NewContract.address := by
  have reflects := reflects_empty.run (exchange.play respond empty).questions
  rw [List.nil_append, ← rounds_eq_answered, ← state_play] at reflects
  rw [addresses, reflects.addresses, newAddresses_eq]

/-! ## Changes on a chain -/

/-- Whether a change is a migration of a contract that is not at a known address. -/
def strands (scope : Scope) (known : List String) (change : Change) : Bool :=
  match change.artifact?, scope.resolveTarget change.target with
  | some _, .ok address => address ∉ known
  | _, _ => false

variable {scope : Scope} {registered : Configuration.Registered} {change : Change}
  {changes : List Change} {preparation : Configuration.Preparation} {index : Nat}

private theorem isOk_migrate (codeId : CodeId) (chain : SimulatedChain) :
    ((Configuration.migrate preparation registered codeId).play respond chain).value.1.isOk =
      decide (preparation.address ∈ chain.addresses) := by
  unfold Configuration.migrate
  rw [Dialogue.play_ask, respond_migrate_eq, ← addresses]
  by_cases known : preparation.address ∈ chain.addresses
  · rw [if_pos known, decide_eq_true known]
    rfl
  · rw [if_neg known, decide_eq_false known]
    rfl

/-- A change that can be prepared is made, unless it strands. -/
theorem isOk_change
    (prepared : Configuration.prepare scope change = .ok preparation)
    (registered : Configuration.Registered)
    (chain : SimulatedChain) :
    ((Configuration.change scope registered change).play respond chain).value.1.isOk =
      !strands scope chain.addresses change := by
  have target : scope.resolveTarget change.target = .ok preparation.address :=
    (Configuration.prepare_eq_ok_iff.mp prepared).address
  unfold Configuration.change
  rw [prepared]
  cases kind : change.kind with
  | execute funds =>
      have noArtifact : change.artifact? = none := by rw [Change.artifact?, kind]
      rw [strands, noArtifact]
      rfl
  | migrate artifact =>
      have ownArtifact : change.artifact? = some artifact := by rw [Change.artifact?, kind]
      have isMigrated : (!strands scope chain.addresses change) =
          decide (preparation.address ∈ chain.addresses) := by
        simp [strands, ownArtifact, target]
      simp only [isMigrated]
      cases registered.lookup artifact with
      | some codeId => exact isOk_migrate codeId chain
      | none => exact isOk_migrate _ (respond (.registerArtifact artifact) chain).2

end SimulatedChain

namespace Cdp

open SimulatedChain (respond strands)
open Provision (MadeFor NewContract)

variable {chain : SimulatedChain} {scope : Scope} {registered : Configuration.Registered}
  {changes : List Change} {inquiries : List Inquiry} {index : Nat}

/-- The failures in a list of changes are the changes that strand. -/
theorem failures_applyFrom
    (prepared : ∀ change ∈ changes,
      ∃ preparation, Configuration.prepare scope change = .ok preparation) :
    failures ((Configuration.applyFrom scope index registered changes).play respond chain).value =
      changes.countP (strands scope chain.addresses) := by
  induction changes generalizing index registered chain with
  | nil => rfl
  | cons change rest inductionHypothesis =>
      obtain ⟨⟨preparation, preparedNow⟩, preparedLater⟩ := List.forall_mem_cons.mp prepared
      have sameAddresses := SimulatedChain.addresses_play
        (change_lasting scope registered change) chain
      have made := SimulatedChain.isOk_change preparedNow registered chain
      simp only [Configuration.applyFrom, Dialogue.play_bind, Dialogue.play_done]
      generalize (Configuration.change scope registered change).play respond chain = played
        at sameAddresses made ⊢
      obtain ⟨⟨outcome, after⟩, questions, later⟩ := played
      have sameOutcome : (Configuration.result index change.target outcome).isOk =
          outcome.isOk := by
        cases outcome <;> rfl
      rw [failures, List.countP_cons, ← failures, inductionHypothesis preparedLater,
        sameOutcome, made, Bool.not_not, List.countP_cons, sameAddresses]

/-- No inquiry that can be prepared fails. -/
theorem unanswered_makeFrom
    (prepared : ∀ inquiry ∈ inquiries, ∃ sent, inquiry.prepare scope = .ok sent) :
    unanswered ((Inquiry.makeFrom scope index inquiries).play respond chain).value = 0 := by
  induction inquiries generalizing index chain with
  | nil => rfl
  | cons inquiry rest inductionHypothesis =>
      obtain ⟨⟨⟨address, query⟩, preparedNow⟩, preparedLater⟩ := List.forall_mem_cons.mp prepared
      have answered : ((inquiry.make scope index).play respond chain).value.isOk = true := by
        rw [Inquiry.make, preparedNow]
        rfl
      simp only [Inquiry.makeFrom, Dialogue.play_bind, Dialogue.play_done]
      rw [unanswered, List.countP_cons, ← unanswered, inductionHypothesis preparedLater, answered]
      rfl

/-! ## Scenarios and inspections -/

/-- The contracts to migrate whose address on record is not a known one. -/
def elsewhere (registry : Registry) (known : List String) : List String :=
  (migrations.map Prod.fst).filter fun name =>
    (registry.address? name).any fun address => address ∉ known

private theorem migratedTo_changes
    {scenario : Scenario}
    (other : scenario ≠ .migrate)
    (artifactsDir : String) :
    Configuration.migratedTo (scenario.changes artifactsDir) = [] := by
  cases scenario with
  | migrate => exact absurd rfl other
  | _ => rfl

private theorem strands_eq_false
    {change : Change}
    (noArtifact : change.artifact? = none)
    (known : List String) :
    strands scope known change = false := by
  rw [strands, noArtifact]

private theorem strands_migrate
    {name : String}
    (closed : ¬ ['$', '{'] <:+: name.toList)
    (known : List String)
    (artifact : String)
    (payload : Json) :
    strands scope known (.migrate name artifact payload) =
      (scope.registry.address? name).any fun address => address ∉ known := by
  have ownArtifact : (Change.migrate name artifact payload).artifact? = some artifact := rfl
  have target : scope.resolveTarget (Change.migrate name artifact payload).target =
      scope.resolvePlaceholder (.address name) := Scope.resolveTarget_name closed
  rw [strands, ownArtifact, target, Scope.resolvePlaceholder, Scope.lookup?]
  cases scope.registry.address? name <;> rfl

/-- The changes of a scenario that strand are migrations of contracts elsewhere. -/
theorem countP_strands (scenario : Scenario) (artifactsDir : String) (known : List String) :
    (scenario.changes artifactsDir).countP (strands scope known) =
      if scenario = .migrate then (elsewhere scope.registry known).length else 0 := by
  by_cases migrates : scenario = .migrate
  · subst migrates
    have closed : ∀ migration ∈ migrations, ¬ ['$', '{'] <:+: migration.1.toList := by decide
    rw [if_pos rfl, elsewhere, List.filter_map, List.length_map, ← List.countP_eq_length_filter,
      Scenario.changes, List.countP_map]
    refine List.countP_congr fun migration member => ?_
    simp only [Function.comp_apply, strands_migrate (closed migration member)]
  · rw [if_neg migrates, List.countP_eq_zero]
    intro change member
    have noArtifact : change.artifact? = none :=
      List.filterMap_eq_nil_iff.mp (migratedTo_changes migrates artifactsDir) change member
    rw [strands_eq_false noArtifact]
    exact Bool.false_ne_true

section

variable {registry : Registry} {config : Config} {deployer artifactsDir : String}
  {scenario : Scenario} {coins : List Coin}

/-- With everything provided and a payable denomination, every change can be prepared. -/
private theorem exists_prepare_change
    (knowsAll : (Scope.mk registry (config.bindings deployer)).KnowsAll Provided)
    (payable : Coin.parseList ("1000000" ++ config.stableDenom) = .ok coins) :
    ∀ change ∈ scenario.changes artifactsDir,
      ∃ preparation,
        Configuration.prepare ⟨registry, config.bindings deployer⟩ change = .ok preparation := by
  intro change member
  cases prepared : Configuration.prepare ⟨registry, config.bindings deployer⟩ change with
  | ok preparation => exact ⟨preparation, rfl⟩
  | error cause =>
      obtain ⟨place, isChange⟩ := List.mem_iff_getElem?.mp member
      obtain ⟨_, _, _, fault, unparsed, _⟩ :=
        (exists_prepare_eq_error_iff knowsAll).mp ⟨change, isChange, rfl, prepared⟩
      rw [payable] at unparsed
      cases unparsed

/-- Of one scenario, the failures are the migrations of contracts elsewhere. -/
private theorem failures_scenario
    (knowsAll : (Scope.mk registry (config.bindings deployer)).KnowsAll Provided)
    (payable : Coin.parseList ("1000000" ++ config.stableDenom) = .ok coins)
    (artifactsDir : String)
    (scenario : Scenario)
    (chain : SimulatedChain) :
    failures ((Configuration.applyFrom ⟨registry, config.bindings deployer⟩ 0 []
      (scenario.changes artifactsDir)).play respond chain).value =
        if scenario = .migrate then (elsewhere registry chain.addresses).length else 0 := by
  rw [failures_applyFrom (exists_prepare_change knowsAll payable), countP_strands]

private theorem value_applyScenarios
    (knowsAll : (Scope.mk registry (config.bindings deployer)).KnowsAll Provided)
    (payable : Coin.parseList ("1000000" ++ config.stableDenom) = .ok coins)
    (scenarios : List Scenario) :
    ((applyScenarios ⟨registry, config.bindings deployer⟩ artifactsDir scenarios).play
      respond chain).value =
        scenarios.count .migrate * (elsewhere registry chain.addresses).length := by
  induction scenarios generalizing chain with
  | nil => exact (Nat.zero_mul _).symm
  | cons scenario rest inductionHypothesis =>
      have sameAddresses := SimulatedChain.addresses_play
        (applyFrom_lasting ⟨registry, config.bindings deployer⟩ 0 []
          (scenario.changes artifactsDir)) chain
      have failed := failures_scenario knowsAll payable artifactsDir scenario chain
      simp only [applyScenarios, applyChanges, Dialogue.play_bind, Dialogue.play_done,
        inductionHypothesis, sameAddresses, failed, List.count_cons, Nat.add_mul]
      by_cases migrates : scenario = .migrate <;> simp [migrates, Nat.add_comm]

private theorem value_runInspections
    (knowsAll : (Scope.mk registry (config.bindings deployer)).KnowsAll Provided)
    (inspections : List Inspection) :
    ((runInspections ⟨registry, config.bindings deployer⟩ inspections).play
      respond chain).value = 0 := by
  induction inspections generalizing chain with
  | nil => rfl
  | cons inspection rest inductionHypothesis =>
      have answered : unanswered ((Inquiry.makeFrom ⟨registry, config.bindings deployer⟩ 0
          inspection.inquiries).play respond chain).value = 0 :=
        unanswered_makeFrom fun inquiry member => Inquiry.exists_prepare_of_within knowsAll
          (Inspection.inquiries_within inspection inspection.mem_all inquiry member)
      simp only [runInspections, makeInquiries, Dialogue.play_bind, Dialogue.play_done,
        inductionHypothesis, answered]

end

/-! ## Rehearsals -/

/-- A denomination can be paid with. -/
private theorem parseList_repayment
    {denom : String}
    (denomination : Coin.Denomination denom.toList) :
    Coin.parseList ("1000000" ++ denom) = .ok [⟨1000000, denom⟩] := by
  have digits : String.ofList (Nat.toDigits 10 1000000) = "1000000" := by decide +kernel
  have written : Coin.listText [⟨1000000, denom⟩] = "1000000" ++ denom := by
    rw [Coin.listText, List.map_singleton, String.intercalate_singleton, Coin.text, ← digits]
    rfl
  rw [← written]
  exact Coin.parseList_listText (List.forall_mem_singleton.mpr denomination)

variable {options : Options} {environment : Environment} {file : FileState} {graph : Graph}
  {seeds : Seeds} {registry : Registry} {config : Config} {deployer : String}

private theorem graph_of_plan (planned : plan options environment file = .ok (graph, seeds)) :
    graph = manifest options.artifactsDir := by
  rw [plan_eq] at planned
  split at planned
  · cases planned
  · split at planned
    · cases planned
    · cases planned
      rfl

/-- After a rehearsed provisioning the chain has the contracts that were created. -/
theorem addresses_provisioned
    {bindings : Variables}
    (provisioned : ((provision graph seeds bindings).play respond
      SimulatedChain.empty).value = .ok registry) :
    ((provision graph seeds bindings).play respond SimulatedChain.empty).state.addresses =
      registry.created.map Entry.address := by
  have ends := Provision.ends_provision graph seeds bindings respond SimulatedChain.empty
  rw [provisioned] at ends
  have sameAddresses : List.Forall₂ Eq
      ((Provision.contractsOf ((provision graph seeds bindings).rounds respond
        SimulatedChain.empty)).map NewContract.address)
      (registry.created.map Entry.address) := by
    rw [List.forall₂_map_left_iff, List.forall₂_map_right_iff]
    exact ends.madeFor.imp fun _ _ made => made.address.symm
  rw [List.forall₂_eq_eq_eq] at sameAddresses
  exact SimulatedChain.addresses_play_empty.trans sameAddresses

private theorem play_onChain_simulate {α : Type} (exchange : Exchange α) (chain : SimulatedChain) :
    (onChain exchange).play simulate chain =
      let played := exchange.play respond chain
      ⟨played.value, played.questions.map Action.call, played.state⟩ :=
  play_onChain_of_responds id (fun _ _ => rfl) exchange

-- An equation of functions, since one of their values is checked by playing the dialogue.
private theorem rehearse_eq :
    rehearse = fun options config environment file =>
      ((deploy options config environment file SimulatedChain.signer).play simulate
        SimulatedChain.empty).value :=
  rfl

/-- A rehearsal provisions and, if that is complete, goes on to configure. -/
theorem rehearse_of_plan
    (rehearsal : options.dryRun = true)
    (planned : plan options environment file = .ok (graph, seeds)) :
    let bindings := config.bindings SimulatedChain.signer
    let provisioned := (provision graph seeds bindings).play respond SimulatedChain.empty
    rehearse options config environment file =
      match provisioned.value with
      | .error aborted => .error (.provisioning aborted)
      | .ok registry =>
          .ok ((configure options ⟨registry, bindings⟩).play respond provisioned.state).value := by
  intro bindings provisioned
  have notSaved (registry : Registry) : persist options file registry = .done (.ok ()) := by
    rw [persist, if_pos rehearsal]
  have played : rehearse options config environment file =
      ((conclude options bindings file provisioned.value).play simulate
        provisioned.state).value := by
    rw [rehearse_eq]
    beta_reduce
    rw [deploy_of_plan planned, Dialogue.play_bind, play_onChain_simulate]
  rw [played]
  cases provisioned.value with
  | error aborted => simp only [conclude, notSaved, Dialogue.done_bind, Dialogue.play_done]
  | ok registry =>
      simp only [conclude, notSaved, Dialogue.done_bind, Dialogue.play_bind,
        play_onChain_simulate, Dialogue.play_done]

private theorem value_configure
    (knowsAll : (Scope.mk registry (config.bindings deployer)).KnowsAll Provided)
    (denomination : Coin.Denomination config.stableDenom.toList) :
    ((configure options ⟨registry, config.bindings deployer⟩).play respond chain).value =
      ⟨registry, options.scenarios.count .migrate * (elsewhere registry chain.addresses).length,
        0⟩ := by
  simp only [configure, Dialogue.play_bind, Dialogue.play_done,
    value_applyScenarios knowsAll (parseList_repayment denomination),
    value_runInspections knowsAll]

private theorem elsewhere_eq_nil_iff {known : List String} :
    elsewhere registry known = [] ↔
      ∀ name ∈ migrations.map Prod.fst, ∀ address,
        registry.address? name = some address → address ∈ known := by
  rw [elsewhere, List.filter_eq_nil_iff]
  refine forall₂_congr fun name _ => ?_
  cases registry.address? name <;> simp

/-- Whatever contracts the file and the environment seed, a rehearsal whose provisioning is
complete has a report. No inquiry fails. The changes that fail are migrations: each time the
contracts are migrated, those fail that are on record at an address where the rehearsal made
no contract. So nothing fails if nothing is migrated, or if all contracts to migrate are at
the addresses of new ones. -/
theorem rehearse_of_provisioned
    (options : Options)
    (environment : Environment)
    (file : FileState)
    (config : Config)
    (rehearsal : options.dryRun = true)
    (denomination : Coin.Denomination config.stableDenom.toList)
    (planned : plan options environment file = .ok (graph, seeds))
    (provisioned : ((provision graph seeds (config.bindings SimulatedChain.signer)).play respond
      SimulatedChain.empty).value = .ok registry) :
    let made := registry.created.map Entry.address
    let failed := options.scenarios.count .migrate * (elsewhere registry made).length
    rehearse options config environment file = .ok ⟨registry, failed, 0⟩ ∧
      (Config.ofEnvironment environment = .ok config →
        run options environment file = .done (.ok ⟨registry, failed, 0⟩)) ∧
      (failed = 0 ↔
        .migrate ∉ options.scenarios ∨
          ∀ name ∈ migrations.map Prod.fst, ∀ address,
            registry.address? name = some address → address ∈ made) := by
  intro made failed
  have knowsAll : (Scope.mk registry (config.bindings SimulatedChain.signer)).KnowsAll
      Provided := by
    rw [graph_of_plan planned] at provisioned
    exact knowsAll_provided provisioned
  have reported : rehearse options config environment file = .ok ⟨registry, failed, 0⟩ := by
    rw [rehearse_of_plan rehearsal planned, provisioned]
    simp only [value_configure knowsAll denomination, addresses_provisioned provisioned]
    rfl
  refine ⟨reported, ?_, ?_⟩
  · intro configured
    rw [run, configured]
    simp only [rehearsal, if_true, reported]
  · rw [Nat.mul_eq_zero, List.count_eq_zero, List.length_eq_zero_iff, elsewhere_eq_nil_iff]

def migrationsRehearsed : Options :=
  { Options.standard with scenarios := [.migrate, .repayStableCoin, .migrate], dryRun := true }

/-- An environment in which the central control has an address already. -/
def controlKnown : Environment :=
  Environment.ofList
    [("RPC_ENDPOINT", "http://node:26657"), ("CHAIN_ID", "sei-chain"), ("MNEMONIC", "words"),
      ("stable_coin_denom", "uusd"), ("BSEI_TOKEN_ADDRESS", "sei1bsei"),
      ("STSEI_TOKEN_ADDRESS", "sei1stsei"), ("CENTRAL_CONTROL_ADDRESS", "sei1control")]

def controlSeeds : Seeds :=
  ⟨[(centralControl, ⟨some "sei1control", none⟩)]⟩

def uusdConfig : Config :=
  ⟨"http://node:26657", "sei-chain", "words", "uusd", "sei1bsei", "sei1stsei"⟩

private theorem ofEnvironment_controlKnown :
    Config.ofEnvironment controlKnown = .ok uusdConfig := by
  decide +kernel

private theorem denomination_uusd : Coin.Denomination uusdConfig.stableDenom.toList := by
  apply Coin.isDenom_iff.mp
  decide +kernel

private theorem plan_controlKnown :
    plan migrationsRehearsed controlKnown .missing =
      .ok (manifest "artifacts", controlSeeds) := by
  have overlaid : overlayEnvironment controlKnown contractNames Seeds.empty =
      .ok controlSeeds := by
    decide +kernel
  rw [plan_eq, show Deployments.seeds .missing = .ok Seeds.empty from rfl]
  simp only [show migrationsRehearsed.artifactsDir = "artifacts" from rfl, manifest_names, overlaid]

/-- A rehearsal in which the one contract on record before fails to migrate, twice. -/
theorem rehearse_of_controlKnown :
    let provisioned := (provision (manifest "artifacts") controlSeeds
      (uusdConfig.bindings SimulatedChain.signer)).play respond SimulatedChain.empty
    migrationsRehearsed.dryRun = true ∧
      Coin.Denomination uusdConfig.stableDenom.toList ∧
      plan migrationsRehearsed controlKnown .missing =
        .ok (manifest "artifacts", controlSeeds) ∧
      ∃ registry, provisioned.value = .ok registry ∧
        run migrationsRehearsed controlKnown .missing = .done (.ok ⟨registry, 2, 0⟩) := by
  intro provisioned
  refine ⟨rfl, denomination_uusd, plan_controlKnown, ?_⟩
  have oneElsewhere : provisioned.value.toOption.map (fun registry =>
      (elsewhere registry (registry.created.map Entry.address)).length) = some 1 := by
    decide +kernel
  cases complete : provisioned.value with
  | error aborted =>
      rw [complete] at oneElsewhere
      cases oneElsewhere
  | ok registry =>
      rw [complete] at oneElsewhere
      have count : (elsewhere registry (registry.created.map Entry.address)).length = 1 :=
        Option.some.inj oneElsewhere
      refine ⟨registry, rfl, ?_⟩
      obtain ⟨_, reported, _⟩ := rehearse_of_provisioned migrationsRehearsed controlKnown .missing
        uusdConfig rfl denomination_uusd plan_controlKnown complete
      rw [reported ofEnvironment_controlKnown, count]
      rfl

/-- A rehearsal with an accepted denomination and a complete provisioning can have failures:
the central control, which is on record before, is refused when the contracts are migrated. -/
theorem rehearse_refuses_known_control :
    Config.ofEnvironment controlKnown = .ok uusdConfig ∧
      Coin.Denomination uusdConfig.stableDenom.toList ∧
      ∃ report,
        run migrationsRehearsed controlKnown .missing = .done (.ok report) ∧
          report.failedChanges = 2 := by
  refine ⟨ofEnvironment_controlKnown, denomination_uusd, ?_⟩
  have failed : (rehearse migrationsRehearsed uusdConfig controlKnown .missing).toOption.map
      Report.failedChanges = some 2 := by
    rw [rehearse_of_plan rfl plan_controlKnown]
    decide +kernel
  cases reported : rehearse migrationsRehearsed uusdConfig controlKnown .missing with
  | error fault =>
      rw [reported] at failed
      cases failed
  | ok report =>
      rw [reported] at failed
      refine ⟨report, ?_, Option.some.inj failed⟩
      rw [run, ofEnvironment_controlKnown]
      exact congrArg Dialogue.done reported

end Cdp

end Rollout
