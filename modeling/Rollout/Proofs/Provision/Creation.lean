import Mathlib.Data.List.Forall2
import Rollout.Proofs.Provision.Recording

/-!
Contract: the contracts that a provisioning makes, in its calls and in its record.

Owns:
- the instantiations that succeeded, and the entries of created resources;
- that these correspond to each other one for one and in order.

Does not own: what becomes of them in later runs.
-/

namespace Rollout

def Registry.created (registry : Registry) : List Entry :=
  registry.entries.filter Entry.created

namespace Provision

/-- A contract that a backend made. -/
structure NewContract where
  label : String
  codeId : CodeId
  address : String
  deriving DecidableEq, Repr

def contract? : CallRound → Option NewContract
  | ⟨.instantiate codeId _ _ label, .ok address⟩ => some ⟨label, codeId, address⟩
  | _ => none

def contractsOf (rounds : List CallRound) : List NewContract :=
  rounds.filterMap contract?

@[simp] theorem contractsOf_append (first second : List CallRound) :
    contractsOf (first ++ second) = contractsOf first ++ contractsOf second :=
  List.filterMap_append

/-- A new contract and the entry of the resource that it was made for. -/
structure MadeFor
    (resources : List Descriptor)
    (contract : NewContract)
    (entry : Entry) :
    Prop where
  label : ∃ descriptor ∈ resources,
    descriptor.name = entry.name ∧ descriptor.label = contract.label
  codeId : entry.codeId = some contract.codeId
  address : entry.address = contract.address

/-- Every entry was made for by one of the contracts. -/
theorem exists_madeFor
    {resources : List Descriptor}
    {contracts : List NewContract}
    {entries : List Entry}
    (madeFor : List.Forall₂ (MadeFor resources) contracts entries)
    {entry : Entry}
    (member : entry ∈ entries) :
    ∃ contract ∈ contracts, MadeFor resources contract entry := by
  induction madeFor with
  | nil => cases member
  | @cons contract other contracts entries made _ inductionHypothesis =>
      rcases List.mem_cons.mp member with rfl | later
      · exact ⟨contract, by simp, made⟩
      · obtain ⟨found, inRest, madeLater⟩ := inductionHypothesis later
        exact ⟨found, List.mem_cons_of_mem contract inRest, madeLater⟩

/-- Every contract was made for one of the entries. -/
theorem exists_entry_of_madeFor
    {resources : List Descriptor}
    {contracts : List NewContract}
    {entries : List Entry}
    (madeFor : List.Forall₂ (MadeFor resources) contracts entries)
    {contract : NewContract}
    (member : contract ∈ contracts) :
    ∃ entry ∈ entries, MadeFor resources contract entry := by
  induction madeFor with
  | nil => cases member
  | @cons other entry contracts entries made _ inductionHypothesis =>
      rcases List.mem_cons.mp member with rfl | later
      · exact ⟨entry, by simp, made⟩
      · obtain ⟨found, inRest, madeLater⟩ := inductionHypothesis later
        exact ⟨found, List.mem_cons_of_mem entry inRest, madeLater⟩

/-- If the labels of the resources tell them apart, contracts that were made for different
entries have different labels. -/
theorem labels_nodup_of_madeFor
    {resources : List Descriptor}
    {contracts : List NewContract}
    {entries : List Entry}
    (labels : (resources.map Descriptor.label).Nodup)
    (madeFor : List.Forall₂ (MadeFor resources) contracts entries)
    (names : (entries.map Entry.name).Nodup) :
    (contracts.map NewContract.label).Nodup := by
  induction madeFor with
  | nil => exact .nil
  | @cons contract entry contracts entries made others inductionHypothesis =>
      obtain ⟨fresh, distinct⟩ := List.nodup_cons.mp names
      refine List.nodup_cons.mpr ⟨?_, inductionHypothesis distinct⟩
      intro again
      obtain ⟨other, inContracts, sameLabel⟩ := List.mem_map.mp again
      obtain ⟨otherEntry, inEntries, madeOther⟩ := exists_entry_of_madeFor others inContracts
      obtain ⟨descriptor, inResources, name, label⟩ := made.label
      obtain ⟨otherDescriptor, otherInResources, otherName, otherLabel⟩ := madeOther.label
      have same : otherDescriptor = descriptor :=
        List.inj_on_of_nodup_map labels otherInResources inResources
          (otherLabel.trans (sameLabel.trans label.symm))
      rw [← name, ← same, otherName] at fresh
      exact fresh (List.mem_map_of_mem inEntries)

variable {seeds : Seeds} {scope : Scope} {bindings : Variables} {descriptor : Descriptor}
  {resources all : List Descriptor} {registry final : Registry} {rounds : List CallRound}

/-! ## One resource -/

private theorem Coded.contractsOf_eq
    {codeId : CodeId}
    (coded : Coded scope descriptor rounds codeId) :
    contractsOf rounds = [] := by
  cases coded <;> rfl

private theorem Fails.contractsOf_eq
    {fault : ProvisionFault}
    (fails : Fails seeds scope descriptor rounds fault) :
    contractsOf rounds = [] := by
  cases fails with
  | uninstantiated _ _ coded =>
      rw [contractsOf_append, coded.contractsOf_eq]
      rfl
  | _ => rfl

/-- A resource becomes live with one new contract if it is created, and with none if it
is seeded. -/
theorem Live.madeFor
    {entry : Entry}
    (live : Live seeds scope descriptor rounds entry)
    (member : descriptor ∈ all) :
    List.Forall₂ (MadeFor all) (contractsOf rounds) ([entry].filter Entry.created) := by
  cases live with
  | seeded known => exact .nil
  | created _ _ coded =>
      rw [contractsOf_append, coded.contractsOf_eq]
      exact .cons ⟨⟨descriptor, member, rfl, rfl⟩, rfl, rfl⟩ .nil

/-! ## Walks -/

/-- If what is picked from the calls of each resource corresponds to its entry, where that
entry counts, then what is picked from the calls of a walk corresponds to the entries that
count, one for one and in order. -/
theorem Walked.forall₂
    {α : Type}
    {pick : CallRound → Option α}
    {counts : Entry → Bool}
    {corresponds : α → Entry → Prop}
    (each : ∀ {descriptor registry rounds entry}, descriptor ∈ all →
      Live seeds ⟨registry, bindings⟩ descriptor rounds entry →
        List.Forall₂ corresponds (rounds.filterMap pick) ([entry].filter counts))
    (walked : Walked seeds bindings resources registry rounds final)
    (inAll : ∀ descriptor ∈ resources, descriptor ∈ all)
    {picked : List α}
    (before : List.Forall₂ corresponds picked (registry.entries.filter counts)) :
    List.Forall₂ corresponds (picked ++ rounds.filterMap pick)
      (final.entries.filter counts) := by
  induction walked generalizing picked with
  | done registry => simpa using before
  | @next descriptor rest registry final entry first later live others inductionHypothesis =>
      have withEntry :
          List.Forall₂ corresponds (picked ++ first.filterMap pick)
            ((registry.record entry).entries.filter counts) := by
        rw [Registry.record, List.filter_append]
        exact List.rel_append before (each (inAll descriptor (by simp)) live)
      have inRest := inductionHypothesis
        (fun other member => inAll other (List.mem_cons_of_mem descriptor member)) withEntry
      rw [List.filterMap_append, ← List.append_assoc]
      exact inRest

private theorem Walked.madeFor
    (walked : Walked seeds bindings resources registry rounds final)
    (inAll : ∀ descriptor ∈ resources, descriptor ∈ all)
    {contracts : List NewContract}
    (madeBefore : List.Forall₂ (MadeFor all) contracts registry.created) :
    List.Forall₂ (MadeFor all) (contracts ++ contractsOf rounds) final.created :=
  walked.forall₂ (fun member live => live.madeFor member) inAll madeBefore

/-- The contracts that a provisioning makes are those of the created resources. -/
theorem Ends.madeFor
    {outcome : Except Aborted Registry}
    (ends : Ends seeds bindings resources Registry.empty rounds outcome) :
    List.Forall₂ (MadeFor resources) (contractsOf rounds) (recorded outcome).created := by
  cases outcome with
  | ok final =>
      exact Walked.madeFor ends (fun _ member => member) .nil
  | error aborted =>
      obtain ⟨before, descriptor, after, rfl, first, last, rfl, walked, fails⟩ := ends
      rw [contractsOf_append, fails.contractsOf_eq, List.append_nil]
      exact walked.madeFor (fun _ member => List.mem_append_left _ member) .nil

end Provision

end Rollout
