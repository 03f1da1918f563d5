import Rollout.Proofs.Cdp.Advance

/-!
Contract: deployments one after the other, each on the file that the last one left.

Owns:
- that every contract keeps the address that was first recorded;
- that no contract is made twice, and none whose address is seeded;
- deployments in an environment that is not well formed, which do nothing.

Does not own: code ids, which the environment can replace.
-/

namespace Rollout.Cdp

open Provision

variable {site : Site} {file : FileState} {members deployments : List (String × Json)}
  {seeds : Seeds} {entry : Entry} {run later : Run} {attempt : Attempt}
  {attempts : List Attempt}

/-! ## Histories -/

/-- Deployments one after the other, each on the file that the last one left. -/
def history (site : Site) : FileState → List Attempt → List Run
  | _, [] => []
  | file, attempt :: rest =>
      let run := attempt.run site file
      run :: history site run.file rest

/-- No deployment makes a contract with a blank address. -/
def NoBlankAddress (runs : List Run) : Prop :=
  ∀ run ∈ runs, ∀ contract ∈ run.contracts, Text.blank contract.address = false

private theorem NoBlankAddress.head
    (noBlank : NoBlankAddress (history site file (attempt :: attempts))) :
    ∀ contract ∈ (attempt.run site file).contracts, Text.blank contract.address = false :=
  noBlank _ List.mem_cons_self

private theorem NoBlankAddress.tail
    (noBlank : NoBlankAddress (history site file (attempt :: attempts))) :
    NoBlankAddress (history site (attempt.run site file).file attempts) :=
  fun run member => noBlank run (List.mem_cons_of_mem _ member)

/-- A later deployment has the contracts of an earlier one in its registry and in its
file, at the same addresses. -/
structure Run.KeptBy (earlier later : Run) : Prop where
  registry : ∀ entry ∈ earlier.registry.entries,
    later.registry.address? entry.name = some entry.address
  file : ∀ entry ∈ earlier.registry.entries,
    Deployments.address? later.file entry.name = some entry.address

private theorem Advances.keptBy_self
    {outcome : Outcome}
    (advances : Advances site deployments run seeds outcome) :
    run.KeptBy run where
  registry := by
    intro entry member
    rw [Registry.address?, Registry.find?_of_mem advances.names_nodup member]
    rfl
  file := fun _ member => Deployments.address?_of_record? (advances.record?_of_mem member)

/-- Every deployment of a history knows the addresses that were known at its start. -/
theorem exists_advances_of_mem_history
    (wellFormed : site.WellFormed)
    (records : Deployments.Records file members deployments)
    (noBlank : NoBlankAddress (history site file attempts))
    (member : run ∈ history site file attempts) :
    ∃ held seeds outcome, Advances site held run seeds outcome ∧
      ∀ name address, (knownSeed site deployments name).address = some address →
        (knownSeed site held name).address = some address := by
  induction attempts generalizing file members deployments with
  | nil => cases member
  | cons attempt rest inductionHypothesis =>
      obtain ⟨seeds, outcome, advances⟩ := attempt.exists_advances records wellFormed
      rcases List.mem_cons.mp member with rfl | inRest
      · exact ⟨deployments, seeds, outcome, advances, fun _ _ known => known⟩
      · obtain ⟨_, recordsNext⟩ := advances.records
        obtain ⟨held, laterSeeds, laterOutcome, laterAdvances, keeps⟩ :=
          inductionHypothesis recordsNext noBlank.tail inRest
        exact ⟨held, laterSeeds, laterOutcome, laterAdvances,
          fun name address known => keeps name address (advances.keeps noBlank.head known)⟩

private theorem Advances.keptBy
    {outcome : Outcome}
    (advances : Advances site deployments later seeds outcome)
    (first : run.registry.names <+: (manifest site.artifactsDir).names)
    (known : ∀ entry ∈ run.registry.entries,
      (knownSeed site deployments entry.name).address = some entry.address) :
    run.KeptBy later := by
  have names : run.registry.names <+: later.registry.names := by
    apply advances.prefix_of_known first
    intro name member
    obtain ⟨entry, inRun, rfl⟩ := List.mem_map.mp member
    simp [known entry inRun]
  have registry : ∀ entry ∈ run.registry.entries,
      later.registry.address? entry.name = some entry.address := fun entry member =>
    advances.address?_of_known (names.subset (List.mem_map_of_mem member)) (known entry member)
  refine ⟨registry, fun entry member => ?_⟩
  obtain ⟨kept, inLater, sameName⟩ :=
    List.mem_map.mp (names.subset (List.mem_map_of_mem member))
  have onRecord := advances.keptBy_self.file kept inLater
  have inRegistry := advances.keptBy_self.registry kept inLater
  rw [sameName] at onRecord inRegistry
  rw [onRecord, ← inRegistry]
  exact registry entry member

private theorem history_keptBy
    (wellFormed : site.WellFormed)
    (records : Deployments.Records file members deployments)
    (noBlank : NoBlankAddress (history site file attempts)) :
    (history site file attempts).Pairwise Run.KeptBy := by
  induction attempts generalizing file members deployments with
  | nil => exact .nil
  | cons attempt rest inductionHypothesis =>
      obtain ⟨seeds, outcome, advances⟩ := attempt.exists_advances records wellFormed
      obtain ⟨_, recordsNext⟩ := advances.records
      refine List.pairwise_cons.mpr ⟨?_, inductionHypothesis recordsNext noBlank.tail⟩
      intro later member
      obtain ⟨held, laterSeeds, laterOutcome, laterAdvances, keeps⟩ :=
        exists_advances_of_mem_history wellFormed recordsNext noBlank.tail member
      apply laterAdvances.keptBy advances.names_prefix
      intro entry inRun
      apply keeps
      rw [advances.knownSeed_next noBlank.head inRun]

private theorem madeFor_flatMap
    {resources : List Descriptor}
    {runs : List Run}
    (madeFor : ∀ run ∈ runs,
      List.Forall₂ (MadeFor resources) run.contracts run.registry.created) :
    List.Forall₂ (MadeFor resources) (runs.flatMap Run.contracts)
      (runs.flatMap fun run => run.registry.created) := by
  induction runs with
  | nil => exact .nil
  | cons run rest inductionHypothesis =>
      obtain ⟨first, others⟩ := List.forall_mem_cons.mp madeFor
      exact List.rel_append first (inductionHypothesis others)

private theorem history_created_nodup
    (wellFormed : site.WellFormed)
    (records : Deployments.Records file members deployments)
    (noBlank : NoBlankAddress (history site file attempts)) :
    (((history site file attempts).flatMap fun run => run.registry.created).map
      Entry.name).Nodup := by
  induction attempts generalizing file members deployments with
  | nil => exact .nil
  | cons attempt rest inductionHypothesis =>
      obtain ⟨seeds, outcome, advances⟩ := attempt.exists_advances records wellFormed
      obtain ⟨_, recordsNext⟩ := advances.records
      have ofFirst : ((attempt.run site file).registry.created.map Entry.name).Nodup :=
        advances.names_nodup.sublist (List.filter_sublist.map Entry.name)
      rw [history, List.flatMap_cons, List.map_append]
      refine List.nodup_append'.mpr
        ⟨ofFirst, inductionHypothesis recordsNext noBlank.tail, ?_⟩
      -- What the first deployment makes is known from then on, so no later one makes it.
      intro name createdFirst createdLater
      obtain ⟨entry, inFirst, rfl⟩ := List.mem_map.mp createdFirst
      obtain ⟨again, createdThere, sameName⟩ := List.mem_map.mp createdLater
      obtain ⟨later, inRest, inLater⟩ := List.mem_flatMap.mp createdThere
      obtain ⟨held, laterSeeds, laterOutcome, laterAdvances, keeps⟩ :=
        exists_advances_of_mem_history wellFormed recordsNext noBlank.tail inRest
      have next := advances.knownSeed_next noBlank.head
        (List.mem_filter.mp inFirst).1
      have known := keeps entry.name entry.address (congrArg Seed.address next)
      have unknown := laterAdvances.unknown_of_created inLater
      rw [sameName, known] at unknown
      cases unknown

/-- If a variable of the environment is not well formed, nothing is done. -/
theorem history_of_illFormed
    (illFormed : ¬ site.WellFormed)
    (records : Deployments.Records file members deployments)
    (member : run ∈ history site file attempts) :
    ∃ fault, run = ⟨.error (.invalidSeed fault), [], file⟩ := by
  induction attempts with
  | nil => cases member
  | cons attempt rest inductionHypothesis =>
      obtain ⟨fault, planned⟩ := plan_of_illFormed attempt records illFormed
      have nothing := Attempt.run_of_plan_error planned
      rw [history, nothing] at member
      rcases List.mem_cons.mp member with rfl | inRest
      · exact ⟨fault, rfl⟩
      · exact inductionHypothesis inRest

/-- What is on record of a contract stays as it was as long as no deployment reaches it. -/
theorem history_record?_of_notMem
    {name : String}
    (wellFormed : site.WellFormed)
    (records : Deployments.Records file members deployments)
    (noBlank : NoBlankAddress (history site file attempts))
    (member : run ∈ history site file attempts)
    (notReached : name ∉ run.registry.names) :
    Deployments.record? run.file name = Deployments.record? file name := by
  have keptBy := history_keptBy wellFormed records noBlank
  induction attempts generalizing file members deployments with
  | nil => cases member
  | cons attempt rest inductionHypothesis =>
      obtain ⟨seeds, outcome, advances⟩ := attempt.exists_advances records wellFormed
      rcases List.mem_cons.mp member with rfl | inRest
      · exact advances.record?_of_notMem records notReached
      · obtain ⟨keptByLater, keptInRest⟩ := List.pairwise_cons.mp keptBy
        have notByFirst : name ∉ (attempt.run site file).registry.names := by
          intro reached
          obtain ⟨entry, inFirst, rfl⟩ := List.mem_map.mp reached
          have inLater := (keptByLater run inRest).registry entry inFirst
          rw [Registry.address?, Registry.find?_eq_none_iff.mpr notReached] at inLater
          cases inLater
        obtain ⟨_, recordsNext⟩ := advances.records
        rw [← advances.record?_of_notMem records notByFirst]
        exact inductionHypothesis recordsNext noBlank.tail inRest keptInRest

/-! ## Every contract once -/

def Site.seededAddress?
    (site : Site)
    (known : Seeds)
    (name : String) :
    Option String :=
  (site.environment.get? (addressSeedName name)).filter (fun address => !Text.blank address) <|>
    known.address? name

private theorem knownSeed_address
    {known : Seeds}
    {name : String}
    (accepted : Deployments.seeds file = .ok known)
    (wellFormed : site.WellFormed)
    (records : Deployments.Records file members deployments)
    (inManifest : name ∈ (manifest site.artifactsDir).names) :
    (knownSeed site deployments name).address = site.seededAddress? known name := by
  obtain ⟨seeds, read, said⟩ := records.exists_seeds
  cases accepted.symm.trans read
  obtain ⟨given, gives⟩ := wellFormed name inManifest
  have address : given.address = site.environment.get? (addressSeedName name) := by
    unfold environmentSeed at gives
    split at gives
    · cases gives
    · cases gives
      rfl
  rw [knownSeed, if_pos inManifest, givenSeed_of_ok gives, Site.seededAddress?, ← address,
    Seeds.address?, said]
  rfl

/-- Over deployments one after the other in one site, no contract is made twice. -/
structure DeployedOnce
    (site : Site)
    (file : FileState)
    (known : Seeds)
    (runs : List Run) :
    Prop where
  /-- The contracts that a deployment makes are those that its registry has as created. -/
  madeFor : ∀ run ∈ runs,
    List.Forall₂ (MadeFor (descriptors site.artifactsDir)) run.contracts run.registry.created
  /-- No two contracts are made under one label. -/
  labels : ((runs.flatMap Run.contracts).map NewContract.label).Nodup
  /-- A contract whose address is seeded at the start is at that address, and not made. -/
  seeded : ∀ run ∈ runs, ∀ entry ∈ run.registry.entries, ∀ address,
    site.seededAddress? known entry.name = some address →
      entry.address = address ∧ entry.created = false
  /-- A contract keeps the address that was first recorded. -/
  kept : runs.Pairwise Run.KeptBy
  /-- Every deployment has its own contracts on record. -/
  onRecord : ∀ run ∈ runs, run.KeptBy run
  /-- What no deployment has reached stays on record as it was. -/
  unreached : ∀ run ∈ runs, ∀ name ∉ run.registry.names,
    Deployments.record? run.file name = Deployments.record? file name
  /-- A deployment ends as its provisioning does, unless the environment has a variable
  that is no code id. -/
  ends : ∀ run ∈ runs,
    (∃ outcome, EndsAs run.value outcome) ∨ ∃ fault, run.value = .error (.invalidSeed fault)

private theorem deployedOnce_of_wellFormed
    {known : Seeds}
    (wellFormed : site.WellFormed)
    (records : Deployments.Records file members deployments)
    (accepted : Deployments.seeds file = .ok known)
    (noBlank : NoBlankAddress (history site file attempts)) :
    DeployedOnce site file known (history site file attempts) := by
  have madeFor : ∀ run ∈ history site file attempts,
      List.Forall₂ (MadeFor (descriptors site.artifactsDir)) run.contracts
        run.registry.created := by
    intro run member
    obtain ⟨_, _, _, advances, _⟩ :=
      exists_advances_of_mem_history wellFormed records noBlank member
    exact advances.madeFor
  have labels : (((history site file attempts).flatMap Run.contracts).map
      NewContract.label).Nodup :=
    labels_nodup_of_madeFor (labels_nodup site.artifactsDir) (madeFor_flatMap madeFor)
      (history_created_nodup wellFormed records noBlank)
  refine ⟨madeFor, labels, ?_, history_keptBy wellFormed records noBlank, ?_,
    fun _ member _ => history_record?_of_notMem wellFormed records noBlank member, ?_⟩
  · intro run member entry inRegistry address seeded
    obtain ⟨_, _, _, advances, keeps⟩ :=
      exists_advances_of_mem_history wellFormed records noBlank member
    have inManifest := advances.names_prefix.subset (List.mem_map_of_mem inRegistry)
    have atStart := (knownSeed_address accepted wellFormed records inManifest).trans seeded
    have repeated := advances.eq_ofReuse inRegistry (keeps entry.name address atStart)
    exact ⟨congrArg Entry.address repeated, congrArg Entry.created repeated⟩
  · intro run member
    obtain ⟨_, _, _, advances, _⟩ :=
      exists_advances_of_mem_history wellFormed records noBlank member
    exact advances.keptBy_self
  · intro run member
    obtain ⟨_, _, outcome, advances, _⟩ :=
      exists_advances_of_mem_history wellFormed records noBlank member
    exact .inl ⟨outcome.value, advances.endsAs⟩

private theorem deployedOnce_of_illFormed
    {known : Seeds}
    (illFormed : ¬ site.WellFormed)
    (records : Deployments.Records file members deployments) :
    DeployedOnce site file known (history site file attempts) := by
  have idle : ∀ run ∈ history site file attempts,
      ∃ fault, run = ⟨.error (.invalidSeed fault), [], file⟩ := fun run member =>
    history_of_illFormed illFormed records member
  have noContracts : (history site file attempts).flatMap Run.contracts = [] := by
    refine List.flatMap_eq_nil_iff.mpr fun run member => ?_
    obtain ⟨fault, rfl⟩ := idle run member
    rfl
  have keptByAll : ∀ run ∈ history site file attempts, ∀ later, run.KeptBy later := by
    intro run member later
    obtain ⟨fault, rfl⟩ := idle run member
    exact ⟨nofun, nofun⟩
  refine ⟨?_, ?_, ?_, ?_, fun run member => keptByAll run member run, ?_, ?_⟩
  · intro run member
    obtain ⟨fault, rfl⟩ := idle run member
    exact .nil
  · rw [noContracts]
    exact .nil
  · intro run member
    obtain ⟨fault, rfl⟩ := idle run member
    nofun
  · exact List.pairwise_of_forall_mem_list fun run member later _ => keptByAll run member later
  · intro run member name _
    obtain ⟨fault, rfl⟩ := idle run member
    rfl
  · intro run member
    obtain ⟨fault, rfl⟩ := idle run member
    exact .inr ⟨fault, rfl⟩

/-- Deployments in one site, each on the file that the last one left, make no contract
twice, if the first file is not there or holds an object with seeds, and no contract is
made with a blank address. -/
theorem history_deploys_once
    {known : Seeds}
    (site : Site)
    (attempts : List Attempt)
    (start : file = .missing ∨
      ∃ content members, file = .text content ∧ Json.ofText? content = some (.object members))
    (accepted : Deployments.seeds file = .ok known)
    (numbers : Deployments.NumbersReadBack file)
    (noBlank : NoBlankAddress (history site file attempts)) :
    DeployedOnce site file known (history site file attempts) := by
  obtain ⟨members, deployments, records⟩ := Deployments.exists_records start accepted numbers
  by_cases wellFormed : site.WellFormed
  · exact deployedOnce_of_wellFormed wellFormed records accepted noBlank
  · exact deployedOnce_of_illFormed wellFormed records

def bareSite : Site :=
  ⟨"deployments.json", "artifacts", fun _ => none⟩

def makesOnly (only : String) : Backend Unit :=
  Backend.ofAnswers fun
    | .registerArtifact _ => .ok 7
    | .instantiate _ _ _ label => if label = only then .ok "sei1made" else .error .unreadable
    | _ => .error .unreadable

/-- A deployment that makes the contract with one label and no other. -/
def attemptFor (only : String) : Attempt :=
  ⟨[], [], "seid", "", ⟨"rpc", "sei", "words", "uusd", "sei1bsei", "sei1stsei"⟩,
    "sei1deployer", Unit, makesOnly only, ()⟩

/-- A deployment that stops behind the first contract, and one that goes on to stop behind
the second. -/
def twoAttempts : List Attempt :=
  [attemptFor "cdp central control", attemptFor "cdp stable pool contract"]

theorem history_deploys_once_of_twoAttempts :
    let runs := history bareSite .missing twoAttempts
    runs.map Run.contracts =
        [[⟨"cdp central control", 7, "sei1made"⟩],
          [⟨"cdp stable pool contract", 7, "sei1made"⟩]] ∧
      Deployments.seeds .missing = .ok Seeds.empty ∧
      Deployments.NumbersReadBack .missing ∧
      NoBlankAddress runs ∧
      DeployedOnce bareSite .missing Seeds.empty runs := by
  have made : (history bareSite .missing twoAttempts).map Run.contracts =
      [[⟨"cdp central control", 7, "sei1made"⟩],
        [⟨"cdp stable pool contract", 7, "sei1made"⟩]] := by
    decide +kernel
  have accepted : Deployments.seeds .missing = .ok Seeds.empty := rfl
  have numbers : Deployments.NumbersReadBack .missing := nofun
  have noBlank : NoBlankAddress (history bareSite .missing twoAttempts) := by
    have visible : ∀ contracts ∈ (history bareSite .missing twoAttempts).map Run.contracts,
        ∀ contract ∈ contracts, Text.blank contract.address = false := by
      rw [made]
      decide
    exact List.forall_mem_map.mp visible
  exact ⟨made, accepted, numbers, noBlank,
    history_deploys_once bareSite twoAttempts (.inl rfl) accepted numbers noBlank⟩

end Rollout.Cdp
