import Rollout.Proofs.Cdp.Deployment
import Rollout.Proofs.Cdp.Seeding

/-!
Contract: what a deployment knows about the contracts, and what it leaves for the next one.

Owns:
- what is known about a contract at the start, from the environment and from the file;
- that a deployment goes on from there, and that the next one knows every contract in
  the registry at its address.

Does not own: the order of several deployments.
-/

namespace Rollout.Cdp

open Provision

/-! ## What is known at the start -/

/-- What a deployment knows about a contract when it starts: what the environment gives,
and what is on record for the rest. -/
def knownSeed
    (site : Site)
    (deployments : List (String × Json))
    (name : String) :
    Seed :=
  let held := (Deployments.recordedSeed deployments name).normal
  if name ∈ (manifest site.artifactsDir).names then
    (givenSeed site.environment name).normal.laidOver held
  else
    held

def Site.WellFormed (site : Site) : Prop :=
  ∀ name ∈ (manifest site.artifactsDir).names,
    ∃ given, environmentSeed site.environment name = .ok given

variable {site : Site} {file : FileState}
  {members deployments : List (String × Json)} {seeds : Seeds} {registry : Registry}
  {entry : Entry}

/-- A deployment starts with what is on record and what the environment gives, if the
variables of the environment are well formed. -/
private theorem plan_of_records
    (attempt : Attempt)
    (records : Deployments.Records file members deployments)
    (wellFormed : site.WellFormed) :
    ∃ seeds, plan (attempt.options site) site.environment file =
        .ok (manifest site.artifactsDir, seeds) ∧
      ∀ name, seeds.seed name = knownSeed site deployments name := by
  obtain ⟨fromFile, read, said⟩ := records.exists_seeds
  obtain ⟨seeds, overlaid⟩ : ∃ seeds, overlayEnvironment site.environment
      (manifest site.artifactsDir).names fromFile = .ok seeds :=
    exists_overlayEnvironment_iff.mpr wellFormed
  refine ⟨seeds, ?_, fun name => ?_⟩
  · rw [plan_eq, read]
    simp only [Attempt.options, overlaid]
  · rw [seed_overlayEnvironment overlaid, said, knownSeed]

/-- Otherwise no deployment starts. -/
theorem plan_of_illFormed
    (attempt : Attempt)
    (records : Deployments.Records file members deployments)
    (illFormed : ¬ site.WellFormed) :
    ∃ fault, plan (attempt.options site) site.environment file = .error (.invalidSeed fault) := by
  obtain ⟨fromFile, read, _⟩ := records.exists_seeds
  rw [plan_eq, read]
  simp only
  split
  · exact ⟨_, rfl⟩
  · rename_i later overlaid
    exact absurd (exists_overlayEnvironment_iff.mp ⟨later, overlaid⟩) illFormed

private theorem knownSeed_normal (name : String) :
    (knownSeed site deployments name).normal = knownSeed site deployments name := by
  unfold knownSeed
  simp only
  split
  · exact Seed.normal_laidOver_normal _ _
  · exact Seed.normal_normal _

/-- An address that the environment gives is known at the start. -/
private theorem knownSeed_of_given
    {name address : String}
    (inManifest : name ∈ (manifest site.artifactsDir).names)
    (given : (givenSeed site.environment name).normal.address = some address) :
    (knownSeed site deployments name).address = some address := by
  rw [knownSeed, if_pos inManifest, Seed.laidOver, given]
  rfl

/-- The entry of a contract whose address is known repeats what is known. -/
private theorem eq_ofReuse_of_known
    {address : String}
    (known : ∀ name, seeds.seed name = knownSeed site deployments name)
    (sourced : Sourced seeds entry)
    (atStart : (knownSeed site deployments entry.name).address = some address) :
    entry = .ofReuse entry.name address (knownSeed site deployments entry.name).codeId := by
  cases sourced with
  | @seeded name other otherKnown =>
      change (knownSeed site deployments name).address = some address at atStart
      rw [Seeds.address?, known, atStart] at otherKnown
      cases otherKnown
      rw [Seeds.codeId?, known]
      rfl
  | @created name other codeId unseeded =>
      change (knownSeed site deployments name).address = some address at atStart
      rw [Seeds.address?, known, atStart] at unseeded
      cases unseeded

/-- What the next deployment knows about a contract that a deployment recorded. -/
theorem knownSeed_withEntries
    (distinct : registry.names.Nodup)
    (inManifest : entry.name ∈ (manifest site.artifactsDir).names)
    (known : ∀ name, seeds.seed name = knownSeed site deployments name)
    (sourced : Sourced seeds entry)
    (visible : entry.created = true → Text.blank entry.address = false)
    (member : entry ∈ registry.entries) :
    knownSeed site (Deployments.withEntries registry.entries deployments) entry.name =
      ⟨some entry.address,
        (givenSeed site.environment entry.name).codeId <|> entry.codeId⟩ := by
  have notBlank : Text.blank entry.address = false := by
    cases sourced with
    | created unseeded => exact visible rfl
    | seeded isSeeded =>
        have atStart := (congrArg Seed.address (known _)).symm.trans isSeeded
        exact Seed.visible_of_normal (knownSeed_normal _) atStart
  have held : (Deployments.recordedSeed
      (Deployments.withEntries registry.entries deployments) entry.name).normal =
      ⟨some entry.address, entry.codeId⟩ := by
    rw [Deployments.recordedSeed_withEntries distinct, Registry.find?_of_mem distinct member]
    simp [Seed.normal, notBlank]
  -- An address that the environment gives was known at the start, so it is the one on
  -- record.
  have address : ((givenSeed site.environment entry.name).normal.address <|>
      some entry.address) = some entry.address := by
    cases given : (givenSeed site.environment entry.name).normal.address with
    | none => rfl
    | some address =>
        have atStart : (knownSeed site deployments entry.name).address = some address :=
          knownSeed_of_given inManifest given
        have repeated := eq_ofReuse_of_known known sourced atStart
        exact congrArg some (congrArg Entry.address repeated).symm
  rw [knownSeed, if_pos inManifest, held, Seed.laidOver, address]
  rfl

/-- What the next deployment knows about any other contract. -/
theorem knownSeed_withEntries_of_notMem
    {name : String}
    (distinct : registry.names.Nodup)
    (notRecorded : name ∉ registry.names) :
    knownSeed site (Deployments.withEntries registry.entries deployments) name =
      knownSeed site deployments name := by
  have notFound : registry.find? name = none := Registry.find?_eq_none_iff.mpr notRecorded
  unfold knownSeed
  rw [Deployments.recordedSeed_withEntries distinct, notFound]

/-! ## One deployment -/

/-- A deployment goes on from the deployments on record: it starts with what is known,
and afterwards its registry is on record with them. -/
structure Advances
    (site : Site)
    (deployments : List (String × Json))
    (run : Run)
    (seeds : Seeds)
    (outcome : Outcome) :
    Prop where
  known : ∀ name, seeds.seed name = knownSeed site deployments name
  follows : outcome.Follows (manifest site.artifactsDir) seeds
  contracts : run.contracts = contractsOf outcome.rounds
  endsAs : EndsAs run.value outcome.value
  records : ∃ members, Deployments.Records run.file members
    (Deployments.withEntries run.registry.entries deployments)

theorem Attempt.exists_advances
    (attempt : Attempt)
    (records : Deployments.Records file members deployments)
    (wellFormed : site.WellFormed) :
    ∃ seeds outcome, Advances site deployments (attempt.run site file) seeds outcome := by
  obtain ⟨seeds, planned, known⟩ := plan_of_records attempt records wellFormed
  obtain ⟨saved, merged, written, recordsSaved⟩ := records.exists_write site.deploymentsPath
    (attempt.provisioning.outcome (manifest site.artifactsDir) seeds).registry
  have endsAs := Attempt.value_of_plan planned written
  have registry : (attempt.run site file).registry =
      (attempt.provisioning.outcome (manifest site.artifactsDir) seeds).registry :=
    endsAs.liveContracts_eq
  refine ⟨seeds, attempt.provisioning.outcome (manifest site.artifactsDir) seeds, known,
    attempt.provisioning.follows _ _, Attempt.contracts_of_plan planned, endsAs, merged, ?_⟩
  rw [registry, Attempt.file_of_plan planned, recording, written]
  exact recordsSaved

namespace Advances

variable {run : Run} {outcome : Outcome} {name address : String}

theorem registry_eq (advances : Advances site deployments run seeds outcome) :
    run.registry = outcome.registry :=
  advances.endsAs.liveContracts_eq

theorem names_nodup (advances : Advances site deployments run seeds outcome) :
    run.registry.names.Nodup := by
  rw [advances.registry_eq]
  exact advances.follows.names_nodup (manifest_valid site.artifactsDir)

theorem names_prefix (advances : Advances site deployments run seeds outcome) :
    run.registry.names <+: (manifest site.artifactsDir).names := by
  rw [advances.registry_eq]
  exact advances.follows.names_prefix

theorem sourced
    (advances : Advances site deployments run seeds outcome)
    (member : entry ∈ run.registry.entries) :
    Sourced seeds entry :=
  advances.follows.sourced entry (advances.registry_eq ▸ member)

theorem madeFor (advances : Advances site deployments run seeds outcome) :
    List.Forall₂ (MadeFor (descriptors site.artifactsDir)) run.contracts
      run.registry.created := by
  rw [advances.contracts, advances.registry_eq]
  obtain ⟨_, ends⟩ := advances.follows
  exact ends.madeFor

theorem known_address (advances : Advances site deployments run seeds outcome) :
    seeds.address? name = (knownSeed site deployments name).address :=
  congrArg Seed.address (advances.known name)

theorem eq_ofReuse
    (advances : Advances site deployments run seeds outcome)
    (member : entry ∈ run.registry.entries)
    (known : (knownSeed site deployments entry.name).address = some address) :
    entry = .ofReuse entry.name address (knownSeed site deployments entry.name).codeId :=
  eq_ofReuse_of_known advances.known (advances.sourced member) known

/-- Nothing is known of the address of a contract that a deployment makes. -/
theorem unknown_of_created
    (advances : Advances site deployments run seeds outcome)
    (member : entry ∈ run.registry.created) :
    (knownSeed site deployments entry.name).address = none := by
  rw [← advances.known_address]
  exact advances.follows.unseeded_of_created (advances.registry_eq ▸ member)

/-- The next deployment knows every contract that is in the registry. -/
theorem knownSeed_next
    (advances : Advances site deployments run seeds outcome)
    (noBlank : ∀ contract ∈ run.contracts, Text.blank contract.address = false)
    (member : entry ∈ run.registry.entries) :
    knownSeed site (Deployments.withEntries run.registry.entries deployments) entry.name =
      ⟨some entry.address,
        (givenSeed site.environment entry.name).codeId <|> entry.codeId⟩ := by
  have inManifest := advances.names_prefix.subset (List.mem_map_of_mem member)
  have visible : entry.created = true → Text.blank entry.address = false := by
    intro created
    apply advances.follows.visible (advances.contracts ▸ noBlank)
    exact List.mem_filter.mpr ⟨advances.registry_eq ▸ member, created⟩
  exact knownSeed_withEntries advances.names_nodup inManifest advances.known
    (advances.sourced member) visible member

theorem keeps
    (advances : Advances site deployments run seeds outcome)
    (noBlank : ∀ contract ∈ run.contracts, Text.blank contract.address = false)
    (known : (knownSeed site deployments name).address = some address) :
    (knownSeed site (Deployments.withEntries run.registry.entries deployments) name).address =
      some address := by
  by_cases recorded : name ∈ run.registry.names
  · obtain ⟨entry, member, rfl⟩ := List.mem_map.mp recorded
    have repeated := advances.eq_ofReuse member known
    rw [advances.knownSeed_next noBlank member]
    exact congrArg some (congrArg Entry.address repeated)
  · rw [knownSeed_withEntries_of_notMem advances.names_nodup recorded]
    exact known

theorem address?_of_known
    (advances : Advances site deployments run seeds outcome)
    (recorded : name ∈ run.registry.names)
    (known : (knownSeed site deployments name).address = some address) :
    run.registry.address? name = some address := by
  obtain ⟨entry, member, rfl⟩ := List.mem_map.mp recorded
  have repeated := advances.eq_ofReuse member known
  rw [Registry.address?, Registry.find?_of_mem advances.names_nodup member]
  exact congrArg some (congrArg Entry.address repeated)

/-- A deployment gets past the contracts that are known. -/
theorem prefix_of_known
    {names : List String}
    (advances : Advances site deployments run seeds outcome)
    (first : names <+: (manifest site.artifactsDir).names)
    (known : ∀ name ∈ names, (knownSeed site deployments name).address ≠ none) :
    names <+: run.registry.names := by
  rw [advances.registry_eq]
  apply advances.follows.prefix_of_seeded first
  intro name member
  rw [advances.known_address]
  exact known name member

theorem record?_of_mem
    (advances : Advances site deployments run seeds outcome)
    (member : entry ∈ run.registry.entries) :
    Deployments.record? run.file entry.name = some (Deployments.entryValue entry) := by
  obtain ⟨members, records⟩ := advances.records
  rw [records.record?_eq, Deployments.lookup_withEntries advances.names_nodup,
    Registry.find?_of_mem advances.names_nodup member]
  rfl

/-- What is on record of other things stays as it was. -/
theorem record?_of_notMem
    (advances : Advances site deployments run seeds outcome)
    (records : Deployments.Records file members deployments)
    (notReached : name ∉ run.registry.names) :
    Deployments.record? run.file name = Deployments.record? file name := by
  obtain ⟨_, recordsNext⟩ := advances.records
  rw [recordsNext.record?_eq, records.record?_eq,
    Deployments.lookup_withEntries advances.names_nodup,
    Registry.find?_eq_none_iff.mpr notReached]
  rfl

end Advances

end Rollout.Cdp
