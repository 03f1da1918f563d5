import Rollout.Proofs.Cdp.Advance

/-!
Contract: a deployment on the file that a complete one left.

Owns:
- that it makes no contract, and that every address on record stays;
- which records it changes: those of contracts that were made although the environment
  gives another code id for them.

Does not own: deployments that stop, and their order.
-/

namespace Rollout.Cdp

open Provision

variable {site : Site} {file : FileState} {deployments : List (String × Json)}
  {seeds laterSeeds : Seeds} {outcome laterOutcome : Outcome} {run later : Run}
  {attempt : Attempt} {entry : Entry} {report : Report}

/-! ## Complete deployments -/

private theorem EndsAs.registry_of_ok
    {result : Except Aborted Registry}
    (endsAs : EndsAs (.ok report) result) :
    result = .ok report.registry := by
  cases endsAs
  rfl

private theorem EndsAs.exists_report
    {value : Except DeploymentFault Report}
    {registry : Registry}
    (endsAs : EndsAs value (.ok registry)) :
    ∃ report, value = .ok report := by
  cases endsAs
  exact ⟨_, rfl⟩

/-- A deployment that does not fail goes on from what is on record in the file. -/
theorem Attempt.exists_advances_of_ok
    (finished : (attempt.run site file).value = .ok report)
    (numbers : Deployments.NumbersReadBack file) :
    site.WellFormed ∧ ∃ deployments seeds outcome,
      Advances site deployments (attempt.run site file) seeds outcome := by
  cases planned : plan (attempt.options site) site.environment file with
  | error fault =>
      rw [Attempt.run_of_plan_error planned] at finished
      cases finished
  | ok started =>
      obtain ⟨graph, seeds⟩ := started
      obtain ⟨saved, written⟩ := Attempt.exists_write_of_ok planned finished
      rw [plan_eq] at planned
      split at planned
      · cases planned
      · rename_i known accepted
        have start := Deployments.missing_or_object_of_write accepted written
        obtain ⟨members, deployments, records⟩ :=
          Deployments.exists_records start accepted numbers
        have wellFormed : site.WellFormed := by
          split at planned
          · cases planned
          · rename_i overlaid
            exact exists_overlayEnvironment_iff.mp ⟨_, overlaid⟩
        exact ⟨wellFormed, deployments, attempt.exists_advances records wellFormed⟩

/-- A complete deployment has all contracts in its registry. -/
theorem Advances.names_of_ok
    (advances : Advances site deployments run seeds outcome)
    (finished : run.value = .ok report) :
    run.registry.names = (manifest site.artifactsDir).names := by
  have endsAs := advances.endsAs
  rw [finished] at endsAs
  obtain ⟨_, ends⟩ := advances.follows
  rw [advances.registry_eq]
  exact ends.ok_iff_names_eq.mp ⟨_, endsAs.registry_of_ok⟩

/-- A deployment that knows all contracts makes none, and does not fail. -/
theorem Advances.complete_of_known
    (advances : Advances site deployments run seeds outcome)
    (known : ∀ name ∈ (manifest site.artifactsDir).names,
      (knownSeed site deployments name).address ≠ none) :
    (∃ report, run.value = .ok report) ∧ run.contracts = [] ∧
      run.registry.names = (manifest site.artifactsDir).names := by
  have all : run.registry.names = (manifest site.artifactsDir).names :=
    advances.names_prefix.eq_of_length_le
      (advances.prefix_of_known (List.prefix_refl _) known).length_le
  have quiet : outcome.rounds = [] := by
    apply advances.follows.rounds_eq_nil
    intro name member
    rw [advances.known_address]
    exact known name member
  have recordedAll : outcome.registry.names = (manifest site.artifactsDir).names := by
    rw [← advances.registry_eq]
    exact all
  obtain ⟨_, ends⟩ := advances.follows
  obtain ⟨registry, complete⟩ := ends.ok_iff_names_eq.mpr recordedAll
  have endsAs := advances.endsAs
  rw [complete] at endsAs
  refine ⟨endsAs.exists_report, ?_, all⟩
  rw [advances.contracts, quiet]
  rfl

/-! ## The next record -/

/-- For a contract that was not made, the code id on record is already the one that the
environment gives, if it gives one. -/
theorem Advances.codeId_of_reused
    (advances : Advances site deployments run seeds outcome)
    (member : entry ∈ run.registry.entries)
    (reused : entry.created = false) :
    ((givenSeed site.environment entry.name).codeId <|> entry.codeId) = entry.codeId := by
  have inManifest := advances.names_prefix.subset (List.mem_map_of_mem member)
  cases advances.sourced member with
  | created unseeded => cases reused
  | @seeded name address known =>
      change name ∈ (manifest site.artifactsDir).names at inManifest
      show ((givenSeed site.environment name).codeId <|> seeds.codeId? name) = seeds.codeId? name
      have code : seeds.codeId? name = ((givenSeed site.environment name).codeId <|>
          (Deployments.recordedSeed deployments name).codeId) := by
        rw [Seeds.codeId?, advances.known, knownSeed, if_pos inManifest]
        rfl
      rw [code]
      cases (givenSeed site.environment name).codeId <;> rfl

/-- The next deployment records a contract at the same address, with the code id that the
environment gives, or else the same one. -/
theorem Advances.record?_next
    (advances : Advances site deployments run seeds outcome)
    (noBlank : ∀ contract ∈ run.contracts, Text.blank contract.address = false)
    (next : Advances site (Deployments.withEntries run.registry.entries deployments)
      later laterSeeds laterOutcome)
    (member : entry ∈ run.registry.entries)
    (reached : entry.name ∈ later.registry.names) :
    Deployments.record? later.file entry.name =
      some (Deployments.entryValue
        { entry with
          codeId := (givenSeed site.environment entry.name).codeId <|> entry.codeId }) := by
  obtain ⟨again, inLater, sameName⟩ := List.mem_map.mp reached
  have known := advances.knownSeed_next noBlank member
  rw [← sameName] at known
  have repeated := next.eq_ofReuse inLater (congrArg Seed.address known)
  have address := congrArg Entry.address repeated
  change again.address = entry.address at address
  have codeId : again.codeId =
      ((givenSeed site.environment entry.name).codeId <|> entry.codeId) := by
    rw [congrArg Entry.codeId repeated, known, ← sameName]
    rfl
  rw [← sameName, next.record?_of_mem inLater, Deployments.entryValue_eq,
    Deployments.entryValue_eq, address, codeId, sameName]

/-! ## Reruns -/

/-- The environment gives another code id for a contract than the one it was made with. -/
def Site.Replaces (site : Site) (entry : Entry) : Prop :=
  entry.created = true ∧
    ∃ codeId, environmentCodeId site.environment entry.name = .ok (some codeId) ∧
      entry.codeId ≠ some codeId

/-- A contract whose code id the environment does not replace is recorded as before. -/
theorem Advances.codeId_of_kept
    (advances : Advances site deployments run seeds outcome)
    (member : entry ∈ run.registry.entries)
    (kept : ¬ site.Replaces entry) :
    ((givenSeed site.environment entry.name).codeId <|> entry.codeId) = entry.codeId := by
  cases created : entry.created with
  | false => exact advances.codeId_of_reused member created
  | true =>
      cases given : (givenSeed site.environment entry.name).codeId with
      | none => rfl
      | some codeId =>
          have same : entry.codeId = some codeId := by
            by_contra other
            exact kept ⟨created, codeId, codeId_givenSeed_iff.mp given, other⟩
          rw [same]
          rfl

/-- After a complete deployment that made no contract with a blank address, another one
has the same contracts in its registry, makes none, and does not fail. -/
theorem Attempt.exists_rerun
    (again : Attempt)
    (finished : (attempt.run site file).value = .ok report)
    (numbers : Deployments.NumbersReadBack file)
    (noBlank : ∀ contract ∈ (attempt.run site file).contracts,
      Text.blank contract.address = false) :
    let first := attempt.run site file
    let second := again.run site first.file
    ∃ deployments seeds outcome laterSeeds laterOutcome,
      Advances site deployments first seeds outcome ∧
        Advances site (Deployments.withEntries first.registry.entries deployments) second
          laterSeeds laterOutcome ∧
        second.registry.names = first.registry.names ∧ second.contracts = [] ∧
        ∃ same, second.value = .ok same := by
  intro first second
  obtain ⟨wellFormed, deployments, seeds, outcome, advances⟩ :=
    Attempt.exists_advances_of_ok finished numbers
  obtain ⟨_, records⟩ := advances.records
  obtain ⟨laterSeeds, laterOutcome, next⟩ := again.exists_advances records wellFormed
  have names := advances.names_of_ok finished
  have known : ∀ name ∈ (manifest site.artifactsDir).names,
      (knownSeed site (Deployments.withEntries first.registry.entries deployments)
        name).address ≠ none := by
    intro name inManifest
    obtain ⟨entry, member, rfl⟩ := List.mem_map.mp (names.symm ▸ inManifest)
    rw [advances.knownSeed_next noBlank member]
    exact Option.some_ne_none _
  obtain ⟨completes, quiet, sameNames⟩ := next.complete_of_known known
  exact ⟨deployments, seeds, outcome, laterSeeds, laterOutcome, advances, next,
    sameNames.trans names.symm, quiet, completes⟩

/-- After a complete deployment that made no contract with a blank address, another one
in the same site does not fail and makes no contract. It leaves every record in the file
as it was, but for the contracts that the first one made while the environment gives
another code id: these stay at their addresses, and the code id of the environment
replaces that on record. -/
theorem rerun_keeps_records
    (site : Site)
    (attempt again : Attempt)
    (finished : (attempt.run site file).value = .ok report)
    (numbers : Deployments.NumbersReadBack file)
    (noBlank : ∀ contract ∈ (attempt.run site file).contracts,
      Text.blank contract.address = false) :
    let first := attempt.run site file
    let second := again.run site first.file
    (∃ same, second.value = .ok same) ∧ second.contracts = [] ∧
      (∀ contract ∈ first.contracts, ∃ entry ∈ report.registry.created,
        MadeFor (descriptors site.artifactsDir) contract entry ∧
          Deployments.record? first.file entry.name = some (Deployments.entryValue entry)) ∧
      (∀ name, (∀ entry ∈ report.registry.entries, entry.name = name → ¬ site.Replaces entry) →
        Deployments.record? second.file name = Deployments.record? first.file name) ∧
      ∀ entry ∈ report.registry.created, ∀ codeId,
        environmentCodeId site.environment entry.name = .ok (some codeId) →
          Deployments.record? second.file entry.name =
            some (Deployments.entryValue { entry with codeId := some codeId }) := by
  intro first second
  obtain ⟨deployments, seeds, outcome, laterSeeds, laterOutcome, advances, next, sameNames,
    quiet, completes⟩ := Attempt.exists_rerun again finished numbers noBlank
  have registry : first.registry = report.registry := by
    rw [Run.registry, finished]
    rfl
  have reached : ∀ entry ∈ first.registry.entries, entry.name ∈ second.registry.names :=
    fun entry member => sameNames.symm ▸ List.mem_map_of_mem member
  refine ⟨completes, quiet, ?_, ?_, ?_⟩
  · intro contract made
    obtain ⟨entry, created, madeFor⟩ := exists_entry_of_madeFor advances.madeFor made
    exact ⟨entry, registry ▸ created, madeFor,
      advances.record?_of_mem (List.mem_filter.mp created).1⟩
  · intro name kept
    by_cases inRegistry : name ∈ second.registry.names
    · rw [sameNames] at inRegistry
      obtain ⟨entry, member, rfl⟩ := List.mem_map.mp inRegistry
      rw [advances.record?_next noBlank next member (reached entry member),
        advances.codeId_of_kept member (kept entry (registry ▸ member) rfl),
        advances.record?_of_mem member]
    · obtain ⟨_, records⟩ := advances.records
      exact next.record?_of_notMem records inRegistry
  · intro entry created codeId given
    have member : entry ∈ first.registry.entries := registry ▸ (List.mem_filter.mp created).1
    rw [advances.record?_next noBlank next member (reached entry member),
      codeId_givenSeed_iff.mpr given]
    rfl

def codedSite : Site :=
  ⟨"deployments.json", "artifacts", Environment.ofList [("STABLE_POOL_CODE_ID", "1466")]⟩

/-- A deployment that makes every contract, with one code id. -/
def completeAttempt : Attempt :=
  ⟨[], [], "seid", "", ⟨"rpc", "sei", "words", "uusd", "sei1bsei", "sei1stsei"⟩,
    "sei1deployer", Unit,
    Backend.ofAnswers fun
      | .registerArtifact _ => .ok 7
      | .instantiate _ _ _ _ => .ok "sei1made"
      | _ => .error .unreadable,
    ()⟩

private theorem completeAttempt_run :
    ∃ report, (completeAttempt.run codedSite .missing).value = .ok report ∧
      report.registry.entries =
        (manifest "artifacts").names.map fun name => Entry.ofCreation name 7 "sei1made" := by
  have evaluated : ((completeAttempt.run codedSite .missing).value.toOption.map
      fun report => report.registry.entries) =
        some ((manifest "artifacts").names.map
          fun name => Entry.ofCreation name 7 "sei1made") := by
    decide +kernel
  cases value : (completeAttempt.run codedSite .missing).value with
  | error fault =>
      rw [value] at evaluated
      cases evaluated
  | ok report =>
      rw [value] at evaluated
      exact ⟨report, rfl, Option.some.inj evaluated⟩

private theorem completeAttempt_noBlank :
    ∀ contract ∈ (completeAttempt.run codedSite .missing).contracts,
      Text.blank contract.address = false := by
  decide +kernel

theorem rerun_keeps_records_of_completeAttempt :
    let first := completeAttempt.run codedSite .missing
    let second := completeAttempt.run codedSite first.file
    ∃ report, first.value = .ok report ∧
      Deployments.NumbersReadBack .missing ∧
      (∀ contract ∈ first.contracts, Text.blank contract.address = false) ∧
      (∃ same, second.value = .ok same) ∧ second.contracts = [] ∧
      (∀ contract ∈ first.contracts, ∃ entry ∈ report.registry.created,
        MadeFor (descriptors "artifacts") contract entry ∧
          Deployments.record? first.file entry.name = some (Deployments.entryValue entry)) ∧
      (∀ name,
        (∀ entry ∈ report.registry.entries, entry.name = name → ¬ codedSite.Replaces entry) →
          Deployments.record? second.file name = Deployments.record? first.file name) ∧
      ∀ entry ∈ report.registry.created, ∀ codeId,
        environmentCodeId codedSite.environment entry.name = .ok (some codeId) →
          Deployments.record? second.file entry.name =
            some (Deployments.entryValue { entry with codeId := some codeId }) := by
  obtain ⟨report, finished, _⟩ := completeAttempt_run
  have numbers : Deployments.NumbersReadBack .missing := nofun
  exact ⟨report, finished, numbers, completeAttempt_noBlank,
    rerun_keeps_records codedSite completeAttempt completeAttempt finished numbers
      completeAttempt_noBlank⟩

/-- The code id on record of a contract can change, although it was made with the one
that was on record. -/
theorem rerun_replaces_codeId :
    let first := completeAttempt.run codedSite .missing
    let second := completeAttempt.run codedSite first.file
    (∃ report, first.value = .ok report) ∧
      (∀ contract ∈ first.contracts, Text.blank contract.address = false) ∧
      Deployments.record? first.file "stable_pool" =
        some (Deployments.entryValue (.ofCreation "stable_pool" 7 "sei1made")) ∧
      Deployments.record? second.file "stable_pool" =
        some (Deployments.entryValue (.ofCreation "stable_pool" 1466 "sei1made")) ∧
      ¬ ∀ name, Deployments.record? second.file name = Deployments.record? first.file name := by
  intro first second
  obtain ⟨report, finished, entries⟩ := completeAttempt_run
  have numbers : Deployments.NumbersReadBack .missing := nofun
  obtain ⟨deployments, seeds, outcome, laterSeeds, laterOutcome, advances, next, sameNames, _⟩ :=
    Attempt.exists_rerun completeAttempt finished numbers completeAttempt_noBlank
  have member : Entry.ofCreation "stable_pool" 7 "sei1made" ∈ first.registry.entries := by
    rw [Run.registry, finished]
    show Entry.ofCreation "stable_pool" 7 "sei1made" ∈ report.registry.entries
    rw [entries]
    exact List.mem_map_of_mem (by decide)
  have given : environmentCodeId codedSite.environment "stable_pool" = .ok (some 1466) := by
    decide +kernel
  have before := advances.record?_of_mem member
  have after := advances.record?_next completeAttempt_noBlank next member
    (sameNames.symm ▸ List.mem_map_of_mem member)
  change Deployments.record? second.file "stable_pool" =
    some (Deployments.entryValue
      { Entry.ofCreation "stable_pool" 7 "sei1made" with
        codeId := (givenSeed codedSite.environment "stable_pool").codeId <|> some 7 }) at after
  rw [codeId_givenSeed_iff.mpr given] at after
  refine ⟨⟨report, finished⟩, completeAttempt_noBlank, before, after, fun same => ?_⟩
  have different : Deployments.entryValue (.ofCreation "stable_pool" 1466 "sei1made") ≠
      Deployments.entryValue (.ofCreation "stable_pool" 7 "sei1made") := by
    decide +kernel
  exact different (Option.some.inj (after.symm.trans ((same "stable_pool").trans before)))

end Rollout.Cdp
