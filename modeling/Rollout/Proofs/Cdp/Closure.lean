import Rollout.Backend.Simulated
import Rollout.Cdp.Config
import Rollout.Cdp.Inspection
import Rollout.Cdp.Scenario
import Rollout.Proofs.Cdp.Manifest
import Rollout.Proofs.Configuration.Refusal
import Rollout.Proofs.Inquiry.Trace
import Rollout.Proofs.Provision.Recording

/-!
Contract: scenarios and inspections against the manifest.

Owns:
- the placeholders that are known after every complete provisioning;
- that scenarios and inspections name no others, and which of their changes has funds;
- that a scenario or an inspection never fails for a name, and that one change alone can
  be refused, for the denomination of the stable coin.

Does not own: faults of the backend.
-/

namespace Rollout.Cdp

/-! ## What is provided -/

def contractNames : List String :=
  [centralControl, stablePool, custodyBsei, liquidationQueue, custodyStsei, mockOracle,
    oraclePyth, mockSwapPair]

theorem manifest_names (artifactsDir : String) :
    (manifest artifactsDir).names = contractNames :=
  rfl

def variableKeys : List String :=
  [deployerVar, stableDenomVar, bseiTokenVar, stseiTokenVar]

private theorem bindings_keys (config : Config) (deployer : String) :
    (config.bindings deployer).map Prod.fst = variableKeys :=
  rfl

/-- The address of a contract, or a variable of every run. A contract with a seed need not
have a code id. -/
def Provided : Placeholder → Prop
  | .address resource => resource ∈ contractNames
  | .codeId _ => False
  | .var key => key ∈ variableKeys

instance : DecidablePred Provided
  | .address resource => inferInstanceAs (Decidable (resource ∈ contractNames))
  | .codeId _ => inferInstanceAs (Decidable False)
  | .var key => inferInstanceAs (Decidable (key ∈ variableKeys))

section

variable {σ : Type} {artifactsDir deployer : String} {config : Config} {seeds : Seeds}
  {backend : Backend σ} {state : σ} {registry : Registry}

theorem knowsAll_provided
    (finished : ((provision (manifest artifactsDir) seeds (config.bindings deployer)).play
      backend state).value = .ok registry) :
    (Scope.mk registry (config.bindings deployer)).KnowsAll Provided := by
  have ends := Provision.ends_provision (manifest artifactsDir) seeds
    (config.bindings deployer) backend state
  rw [finished] at ends
  have names : registry.names = contractNames :=
    (ends.ok_iff_names_eq.mp ⟨registry, rfl⟩).trans (manifest_names artifactsDir)
  intro placeholder provided
  cases placeholder with
  | address resource => exact Registry.exists_entry_of_recorded (names ▸ provided)
  | codeId resource => exact provided.elim
  | var key =>
      show key ∈ (config.bindings deployer).map Prod.fst
      rw [bindings_keys]
      exact provided

end

/-! ## Scenarios -/

private theorem Scenario.mem_all (scenario : Scenario) : scenario ∈ Scenario.all := by
  cases scenario <;> decide

/-- The directory of the artifacts has no part in what is resolved. -/
private theorem Scenario.changes_templates (scenario : Scenario) (artifactsDir : String) :
    (scenario.changes artifactsDir).map Change.templates =
      (scenario.changes "").map Change.templates := by
  cases scenario <;> rfl

private theorem collaterals_within : ∀ collateral ∈ collaterals,
    Template.TargetWithin Provided (var collateral.token) ∧
      Template.Within Provided (addressOf collateral.custody) ∧
      Template.Within Provided collateral.deposit ∧
      Template.Within Provided collateral.minting := by
  decide +kernel

/-- Whatever message goes with a collateral, it is in base 64 and adds no slot. -/
private theorem sendToCustody_within
    {collateral : Collateral}
    {amount : String}
    (token : Template.TargetWithin Provided (var collateral.token))
    (custody : Template.Within Provided (addressOf collateral.custody))
    (sent : Template.Within Provided amount)
    (hook : Json) :
    (sendToCustody collateral amount hook).templates.Within Provided where
  target := token
  payload := by
    have sending : ∀ member ∈ [("contract", Json.string (addressOf collateral.custody)),
        ("amount", Json.string amount),
        ("msg", Json.string (Text.base64 (Text.encodeUtf8 hook.compact)))],
        member.2.Within Provided := by
      simp only [List.forall_mem_cons]
      exact ⟨Json.within_string custody, Json.within_string sent,
        Json.within_string (Template.base64_within _), nofun⟩
    apply Json.within_ofMembers
    exact List.forall_mem_singleton.mpr (Json.within_ofMembers sending)
  funds := nofun

/-- The scenarios that send no collateral have fixed texts, which can all be read. -/
private theorem Scenario.templates_within_of_not_sending :
    ∀ scenario ∈ Scenario.all, scenario ≠ .depositCollateral → scenario ≠ .mintWithCollateral →
      ∀ templates ∈ (scenario.changes "").map Change.templates, templates.Within Provided := by
  decide +kernel

/-- What a scenario resolves is within what is provided. -/
theorem Scenario.templates_within
    {scenario : Scenario}
    {templates : Change.Templates}
    (member : templates ∈ (scenario.changes "").map Change.templates) :
    templates.Within Provided := by
  cases scenario with
  | depositCollateral =>
      obtain ⟨_, isChange, rfl⟩ := List.mem_map.mp member
      obtain ⟨collateral, listed, rfl⟩ := List.mem_map.mp isChange
      obtain ⟨token, custody, deposit, _⟩ := collaterals_within collateral listed
      exact sendToCustody_within token custody deposit _
  | mintWithCollateral =>
      obtain ⟨_, isChange, rfl⟩ := List.mem_map.mp member
      obtain ⟨collateral, listed, rfl⟩ := List.mem_map.mp isChange
      obtain ⟨token, custody, _, minting⟩ := collaterals_within collateral listed
      exact sendToCustody_within token custody minting _
  | _ =>
      refine templates_within_of_not_sending _ (mem_all _) ?_ ?_ templates member
      · exact nofun
      · exact nofun

private theorem Scenario.templates_unfunded :
    ∀ scenario ∈ Scenario.all, scenario ≠ .repayStableCoin →
      ∀ templates ∈ (scenario.changes "").map Change.templates, templates.funds = none := by
  decide +kernel

/-- The funds that pay stable coins back. -/
def repayment : String :=
  "1000000" ++ var stableDenomVar

def repay : Change :=
  (Change.execute stablePool (.ofMembers [("repay_stable_coin", .ofMembers [])])).withFunds
    repayment

private theorem repayStableCoin_changes (artifactsDir : String) :
    Scenario.repayStableCoin.changes artifactsDir = [repay] :=
  rfl

private theorem pieces_repayment :
    Template.pieces repayment = .ok [.literal "1000000", .slot (.var stableDenomVar)] := by
  decide +kernel

private theorem resolveText_repayment (registry : Registry) (config : Config) (deployer : String) :
    (Scope.mk registry (config.bindings deployer)).resolveText repayment =
      .ok ("1000000" ++ config.stableDenom) := by
  have known : (config.bindings deployer).lookup stableDenomVar = some config.stableDenom := rfl
  simp [Scope.resolveText, pieces_repayment, Scope.resolvePieces, Scope.resolvePlaceholder,
    Scope.lookup?, known]

section

variable {artifactsDir deployer target : String} {config : Config} {registry : Registry}
  {scenario : Scenario} {change : Change} {index : Nat} {cause : ChangeCause}

private theorem mem_templates (isChange : (scenario.changes artifactsDir)[index]? = some change) :
    change.templates ∈ (scenario.changes "").map Change.templates := by
  rw [← scenario.changes_templates artifactsDir]
  exact List.mem_map_of_mem (List.mem_of_getElem? isChange)

/-- With everything provided, the one change that cannot be prepared is that which pays
stable coins back, if its amount and the denomination are no coin list. -/
theorem exists_prepare_eq_error_iff
    (knowsAll : (Scope.mk registry (config.bindings deployer)).KnowsAll Provided) :
    (∃ change, (scenario.changes artifactsDir)[index]? = some change ∧ change.target = target ∧
        Configuration.prepare ⟨registry, config.bindings deployer⟩ change = .error cause) ↔
      scenario = .repayStableCoin ∧ index = 0 ∧ target = stablePool ∧
        ∃ fault, Coin.parseList ("1000000" ++ config.stableDenom) = .error fault ∧
          cause = .invalidFunds fault := by
  constructor
  · rintro ⟨change, isChange, rfl, refused⟩
    have isTemplate := mem_templates isChange
    have within := Scenario.templates_within isTemplate
    obtain ⟨funds, resolved, fault, given, resolves, unparsed, rfl⟩ :=
      (Configuration.prepare_eq_error_iff_of_within knowsAll within).mp refused
    have repays : scenario = .repayStableCoin := by
      by_contra other
      have unfunded := Scenario.templates_unfunded scenario scenario.mem_all other _ isTemplate
      exact Option.some_ne_none funds (given.symm.trans unfunded)
    subst repays
    rw [repayStableCoin_changes, List.getElem?_singleton] at isChange
    obtain ⟨rfl, isRepay⟩ := Option.ite_none_right_eq_some.mp isChange
    cases isRepay
    obtain rfl : repayment = funds := Option.some.inj given
    rw [resolveText_repayment] at resolves
    cases resolves
    exact ⟨rfl, rfl, rfl, fault, unparsed, rfl⟩
  · rintro ⟨rfl, rfl, rfl, fault, unparsed, rfl⟩
    have isChange : (Scenario.repayStableCoin.changes artifactsDir)[0]? = some repay := rfl
    have within := Scenario.templates_within (mem_templates isChange)
    refine ⟨repay, isChange, rfl, ?_⟩
    exact (Configuration.prepare_eq_error_iff_of_within knowsAll within).mpr
      ⟨repayment, _, fault, rfl, resolveText_repayment registry config deployer, unparsed, rfl⟩

/-- Whatever the backend answers, the one refusal in a scenario is that of the change that
pays stable coins back. -/
theorem error_mem_scenario_iff
    {τ : Type}
    {backend : Backend τ}
    {state : τ}
    (knowsAll : (Scope.mk registry (config.bindings deployer)).KnowsAll Provided)
    (refusal : ∀ operation fault, cause ≠ .backend operation fault) :
    .error ⟨index, target, cause⟩ ∈ ((applyChanges ⟨registry, config.bindings deployer⟩
        (scenario.changes artifactsDir)).play backend state).value ↔
      scenario = .repayStableCoin ∧ index = 0 ∧ target = stablePool ∧
        ∃ fault, Coin.parseList ("1000000" ++ config.stableDenom) = .error fault ∧
          cause = .invalidFunds fault :=
  (Configuration.error_mem_applyChanges_iff refusal).trans (exists_prepare_eq_error_iff knowsAll)

end

/-! ## Inspections -/

theorem Inspection.mem_all (inspection : Inspection) : inspection ∈ Inspection.all := by
  cases inspection <;> decide

/-- What an inspection resolves is within what is provided. -/
theorem Inspection.inquiries_within :
    ∀ inspection ∈ Inspection.all, ∀ inquiry ∈ inspection.inquiries,
      inquiry.Within Provided := by
  decide +kernel

/-! ## Complete provisionings -/

/-- The contracts form a graph in the order of their declaration. Once it is provisioned,
from whatever seeds and by whatever backend, every scenario and every inspection can
resolve all that it names. The only change that is ever refused pays stable coins back,
and it is refused exactly if its amount and the denomination are no coin list. -/
theorem scenarios_closed (artifactsDir : String) :
    graph artifactsDir = .ok ⟨descriptors artifactsDir⟩ ∧
      ∀ {σ : Type} (config : Config) (deployer : String) (seeds : Seeds) (backend : Backend σ)
        (state : σ) (registry : Registry),
        let bindings := config.bindings deployer
        ((provision ⟨descriptors artifactsDir⟩ seeds bindings).play backend state).value =
            .ok registry →
          ∀ {τ : Type} (later : Backend τ) (laterState : τ),
            let changed := fun scenario : Scenario =>
              ((applyChanges ⟨registry, bindings⟩ (scenario.changes artifactsDir)).play
                later laterState).value
            let answered := fun inspection : Inspection =>
              ((makeInquiries ⟨registry, bindings⟩ inspection.inquiries).play
                later laterState).value
            (∀ scenario index target fault,
              .error ⟨index, target, .unresolved fault⟩ ∉ changed scenario) ∧
            (∀ scenario index target fault,
              .error ⟨index, target, .invalidFunds fault⟩ ∈ changed scenario ↔
                scenario = .repayStableCoin ∧ index = 0 ∧ target = stablePool ∧
                  Coin.parseList ("1000000" ++ config.stableDenom) = .error fault) ∧
            ∀ inspection, ∀ result ∈ answered inspection,
              ∀ fault, result.outcome ≠ .error (.unresolved fault) := by
  refine ⟨graph_eq artifactsDir, ?_⟩
  intro σ config deployer seeds backend state registry bindings finished τ later laterState
    changed answered
  have knowsAll : (Scope.mk registry bindings).KnowsAll Provided := knowsAll_provided finished
  refine ⟨?_, ?_, ?_⟩
  · intro scenario index target fault refused
    obtain ⟨_, _, _, other, _, same⟩ := (error_mem_scenario_iff knowsAll (by simp)).mp refused
    cases same
  · intro scenario index target fault
    exact (error_mem_scenario_iff knowsAll (by simp)).trans (by simp)
  · intro inspection result member fault
    obtain ⟨place, inquiry, part, isInquiry, made⟩ := Inquiry.exists_made_of_mem member
    exact made.outcome_ne_unresolved knowsAll
      (Inspection.inquiries_within inspection inspection.mem_all inquiry
        (List.mem_of_getElem? isInquiry)) fault

/-- A rehearsal with one contract known already, and no denomination for the stable coin. -/
theorem scenarios_closed_of_rehearsal :
    let config : Config := ⟨"rpc", "sei-1", "words", "", "sei1bsei", "sei1stsei"⟩
    let bindings := config.bindings SimulatedChain.signer
    let seeds : Seeds := Seeds.empty.withAddress oraclePyth "sei1oracle"
    graph "artifacts" = .ok ⟨descriptors "artifacts"⟩ ∧
      ∃ registry,
        ((provision ⟨descriptors "artifacts"⟩ seeds bindings).play SimulatedChain.respond
          SimulatedChain.empty).value = .ok registry ∧
        let changed := fun scenario : Scenario =>
          ((applyChanges ⟨registry, bindings⟩ (scenario.changes "artifacts")).play
            SimulatedChain.respond SimulatedChain.empty).value
        let answered := fun inspection : Inspection =>
          ((makeInquiries ⟨registry, bindings⟩ inspection.inquiries).play
            SimulatedChain.respond SimulatedChain.empty).value
        (∀ scenario index target fault,
          .error ⟨index, target, .unresolved fault⟩ ∉ changed scenario) ∧
        .error ⟨0, stablePool, .invalidFunds ⟨"1000000"⟩⟩ ∈ changed .repayStableCoin ∧
        ∀ inspection, ∀ result ∈ answered inspection,
          ∀ fault, result.outcome ≠ .error (.unresolved fault) := by
  intro config bindings seeds
  rcases scenarios_closed "artifacts" with ⟨built, closed⟩
  have finishes : ((provision ⟨descriptors "artifacts"⟩ seeds bindings).play
      SimulatedChain.respond SimulatedChain.empty).value.isOk = true := by decide +kernel
  refine ⟨built, ?_⟩
  cases finished : ((provision ⟨descriptors "artifacts"⟩ seeds bindings).play
      SimulatedChain.respond SimulatedChain.empty).value with
  | error aborted =>
      rw [finished] at finishes
      cases finishes
  | ok registry =>
      rcases closed config SimulatedChain.signer seeds SimulatedChain.respond
        SimulatedChain.empty registry finished SimulatedChain.respond SimulatedChain.empty
        with ⟨resolved, refused, asked⟩
      have isRefused := (refused .repayStableCoin 0 stablePool ⟨"1000000"⟩).mpr
        ⟨rfl, rfl, rfl, by decide +kernel⟩
      exact ⟨registry, rfl, resolved, isRefused, asked⟩

end Rollout.Cdp
