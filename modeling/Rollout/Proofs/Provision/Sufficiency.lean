import Rollout.Proofs.Provision.Recording

/-!
Contract: what a resource of a graph can lack when its turn comes.

Owns:
- that everything a resource names is on record by then, under its seeded or its new
  identity;
- that only two kinds of placeholder can stand for nothing: a variable without a value,
  and the code id of a resource that was seeded without one.

Does not own: funds that are no coin list, and calls that fail.
-/

namespace Rollout.Provision

variable {seeds : Seeds} {bindings : Variables} {registry : Registry}
  {descriptor : Descriptor}

/-- What a resource needs and a run cannot give it. -/
inductive Lacks
    (seeds : Seeds)
    (bindings : Variables)
    (registry : Registry)
    (descriptor : Descriptor) :
    Placeholder → Prop where
  /-- A variable that the resource names has no value. -/
  | variable {key : String}
      (named : .var key ∈ descriptor.slots)
      (unbound : bindings.lookup key = none) :
      Lacks seeds bindings registry descriptor (.var key)
  /-- A resource whose code the resource needs was seeded without a code id. -/
  | code {source address : String}
      (needed : .codeId source ∈ descriptor.slots ∨ descriptor.artifact = .reuse source)
      (seeded : seeds.address? source = some address)
      (codeless : seeds.codeId? source = none)
      (reused : registry.find? source = some (.ofReuse source address none)) :
      Lacks seeds bindings registry descriptor (.codeId source)

/-! ## What is on record -/

private theorem address?_ne_none_of_recorded
    {name : String}
    (recorded : name ∈ registry.names) :
    registry.address? name ≠ none := by
  obtain ⟨entry, found⟩ := Registry.exists_entry_of_recorded recorded
  simp [Registry.address?, found]

/-- A resource on record without a code id was seeded without one. -/
private theorem Lacks.of_recorded
    {source : String}
    (needed : .codeId source ∈ descriptor.slots ∨ descriptor.artifact = .reuse source)
    (recorded : source ∈ registry.names)
    (sourced : ∀ entry ∈ registry.entries, Sourced seeds entry)
    (codeless : registry.codeId? source = none) :
    Lacks seeds bindings registry descriptor (.codeId source) := by
  obtain ⟨entry, found⟩ := Registry.exists_entry_of_recorded recorded
  obtain ⟨member, rfl⟩ := Registry.mem_of_find? found
  have entryCodeless : entry.codeId = none := by
    simpa [Registry.codeId?, found] using codeless
  cases sourced entry member with
  | created unseeded => cases entryCodeless
  | @seeded name address known =>
      have unknown : seeds.codeId? name = none := entryCodeless
      have reused : registry.find? name = some (.ofReuse name address none) := by
        rw [← unknown]
        exact found
      exact .code needed known unknown reused

/-! ## Resources whose dependencies are on record -/

/-- A slot that stands for nothing asks for something that the run lacks. -/
private theorem lacks_of_lookup?_eq_none
    {placeholder : Placeholder}
    (recorded : ∀ name ∈ descriptor.references, name ∈ registry.names)
    (sourced : ∀ entry ∈ registry.entries, Sourced seeds entry)
    (member : placeholder ∈ descriptor.slots)
    (unknown : (Scope.mk registry bindings).lookup? placeholder = none) :
    Lacks seeds bindings registry descriptor placeholder := by
  cases placeholder with
  | var key => exact .variable member unknown
  | address name =>
      have onRecord := recorded name (Descriptor.mem_references_of_slot member rfl)
      exact absurd unknown (address?_ne_none_of_recorded onRecord)
  | codeId source =>
      have onRecord := recorded source (Descriptor.mem_references_of_slot member rfl)
      have codeless : registry.codeId? source = none := by
        simpa [Scope.lookup?] using unknown
      exact .of_recorded (.inl member) onRecord sourced codeless

/-- What stands in the way of the texts of a well-formed descriptor is a slot for
something that the run lacks. -/
private theorem lacks_of_blocks
    {fault : ResolveFault}
    (wellFormed : descriptor.WellFormed)
    (recorded : ∀ name ∈ descriptor.references, name ∈ registry.names)
    (sourced : ∀ entry ∈ registry.entries, Sourced seeds entry)
    (blocks : (Scope.mk registry bindings).Blocks descriptor.texts fault) :
    ∃ placeholder, fault = .unresolved placeholder ∧
      Lacks seeds bindings registry descriptor placeholder := by
  obtain ⟨text, first, obstructs⟩ := blocks
  -- The graph was built from well-formed texts only, so a slot stands in the way.
  cases obstructs with
  | malformed read =>
      exact absurd (wellFormed text first.mem) (Template.not_wellFormed_of_pieces read)
  | unresolved firstSlot =>
      have member := Descriptor.mem_slots_of_text first.mem firstSlot.mem
      exact ⟨_, rfl, lacks_of_lookup?_eq_none recorded sourced member firstSlot.holds_item⟩

private theorem Fails.lacks
    {rounds : List CallRound}
    {resource : String}
    {fault : ResolveFault}
    (fails : Fails seeds ⟨registry, bindings⟩ descriptor rounds (.unresolved resource fault))
    (wellFormed : descriptor.WellFormed)
    (recorded : ∀ name ∈ descriptor.references, name ∈ registry.names)
    (sourced : ∀ entry ∈ registry.entries, Sourced seeds entry) :
    ∃ placeholder, fault = .unresolved placeholder ∧
      Lacks seeds bindings registry descriptor placeholder := by
  cases fails with
  | unresolved _ unprepared =>
      obtain ⟨_, blocks⟩ := prepare_eq_unresolved_iff.mp unprepared
      exact lacks_of_blocks wellFormed recorded sourced blocks
  | codeless _ _ reuses unknown =>
      have onRecord := recorded _ (Descriptor.mem_references_of_reuse reuses)
      exact ⟨_, rfl, .of_recorded (.inr reuses) onRecord sourced unknown⟩

/-! ## Graphs -/

/-- When a resource of a graph has its turn, nothing is missing that the graph could
have told: what is left unresolved is a variable without a value, or the code id of a
resource that was seeded without one. -/
theorem unresolved_lacks
    {σ : Type}
    {descriptors : List Descriptor}
    {graph : Graph}
    (built : Graph.build descriptors = .ok graph)
    (seeds : Seeds)
    (bindings : Variables)
    (backend : Backend σ)
    (state : σ)
    {resource : String}
    {fault : ResolveFault}
    {registry : Registry}
    (stopped : ((provision graph seeds bindings).play backend state).value =
      .error ⟨.unresolved resource fault, registry⟩) :
    ∃ descriptor ∈ graph.resources, descriptor.name = resource ∧
      ∃ placeholder, Lacks seeds bindings registry descriptor placeholder ∧
        fault = .unresolved placeholder ∧
        ProvisionFault.reference fault = placeholder.text := by
  have valid := Graph.valid_of_build built
  have ends := ends_provision graph seeds bindings backend state
  rw [stopped] at ends
  have sourced := ends.sourced
  obtain ⟨before, descriptor, after, atDescriptor⟩ := ends
  have member : descriptor ∈ graph.resources := by
    rw [atDescriptor.split]
    simp
  have recorded : ∀ name ∈ descriptor.references, name ∈ registry.names := by
    intro name referenced
    have earlier := valid.inOrder before descriptor after atDescriptor.split name referenced
    rw [← atDescriptor.names_eq] at earlier
    exact earlier
  obtain ⟨_, _, _, _, fails⟩ := atDescriptor.rounds_split
  obtain ⟨placeholder, rfl, lacks⟩ :=
    fails.lacks (valid.wellFormed descriptor member) recorded sourced
  exact ⟨descriptor, member, fails.resource_eq.symm, placeholder, lacks, rfl, rfl⟩

theorem unresolved_lacks_code_of_twin :
    let run := (provision ⟨[vault, twin]⟩ (Seeds.empty.withAddress "vault" "sei1vault")
      []).play vaultsOnly ()
    let registry : Registry := ⟨[.ofReuse "vault" "sei1vault" none]⟩
    run.value = .error ⟨.unresolved "twin" (.unresolved (.codeId "vault")), registry⟩ ∧
      ∃ descriptor ∈ [vault, twin], descriptor.name = "twin" ∧
        ∃ placeholder,
          Lacks (Seeds.empty.withAddress "vault" "sei1vault") [] registry descriptor
            placeholder ∧
          ResolveFault.unresolved (.codeId "vault") = .unresolved placeholder ∧
          ProvisionFault.reference (.unresolved (.codeId "vault")) = placeholder.text := by
  have built : Graph.build [twin, vault] = .ok ⟨[vault, twin]⟩ := rfl
  refine ⟨rfl, ?_⟩
  exact unresolved_lacks built (Seeds.empty.withAddress "vault" "sei1vault") [] vaultsOnly ()
    rfl

end Rollout.Provision
