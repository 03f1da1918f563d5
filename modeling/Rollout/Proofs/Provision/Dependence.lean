import Rollout.Proofs.Provision.Settlement
import Rollout.Proofs.Template.Filling

/-!
Contract: the dependencies of a resource as what its provisioning reads.

Owns:
- that the provisioning of a resource without a seeded address reads nothing but what is on
  record of its dependencies and the values of the variables that it names;
- that it cannot do without any of its dependencies, and finds out before it makes a call;
- the order in which the dependencies are listed.

Does not own: whether the dependencies are declared.
-/

namespace Rollout.Provision

variable {seeds : Seeds} {scope : Scope} {registry : Registry} {bindings : Variables}
  {descriptor : Descriptor} {name : String}

private theorem resource_of_unseeded (unseeded : seeds.address? descriptor.name = none) :
    resource seeds scope descriptor = create scope descriptor := by
  simp only [resource, unseeded]

/-! ## Dependencies that are not on record -/

/-- A resource cannot be prepared if a slot asks for a resource that is not on record. -/
private theorem exists_fault_of_missing_slot
    {placeholder : Placeholder}
    (named : placeholder ∈ descriptor.slots)
    (refers : placeholder.resource? = some name)
    (missing : name ∉ registry.names) :
    ∃ fault, prepare ⟨registry, bindings⟩ descriptor = .error fault := by
  have notFound : registry.find? name = none := Registry.find?_eq_none_iff.mpr missing
  have unknown : ¬ (Scope.mk registry bindings).Knows placeholder := by
    cases placeholder with
    | var key => cases refers
    | _ =>
        obtain rfl := Option.some.inj refers
        simp [Scope.Knows, notFound]
  rcases List.mem_flatMap.mp named with ⟨text, inTexts, inText⟩
  have obstructed : (Scope.mk registry bindings).Obstructed text := by
    by_contra clear
    exact unknown ((Scope.not_obstructed_iff.mp clear).2 placeholder inText)
  rcases Scope.exists_blocks_iff.mpr ⟨text, inTexts, obstructed⟩ with ⟨fault, blocks⟩
  exact ⟨_, prepare_eq_unresolved_iff.mpr ⟨rfl, blocks⟩⟩

/-- A resource is not created, and nothing is called for it, if a resource that it names is
not on record. -/
theorem create_of_missing
    (referenced : name ∈ descriptor.references)
    (missing : name ∉ registry.names) :
    ∃ fault, create ⟨registry, bindings⟩ descriptor = .done (.error fault) := by
  cases prepared : prepare ⟨registry, bindings⟩ descriptor with
  | error fault => exact ⟨fault, by simp only [create, prepared]⟩
  | ok preparation =>
      -- Its slots are filled, so that what is missing can only be the source of its code.
      rcases List.mem_append.mp referenced with isSource | inSlots
      · have reuses : descriptor.artifact = .reuse name := by
          unfold Descriptor.source at isSource
          split at isSource
          · cases isSource
          · rename_i source isReuse
            rw [isReuse, List.mem_singleton.mp isSource]
        have codeless : registry.codeId? name = none := by
          rw [Registry.codeId?, Registry.find?_eq_none_iff.mpr missing, Option.bind_none]
        refine ⟨.unresolved descriptor.name (.unresolved (.codeId name)), ?_⟩
        simp only [create, prepared, reuses, codeless]
      · rcases List.mem_filterMap.mp inSlots with ⟨placeholder, named, refers⟩
        rcases exists_fault_of_missing_slot named refers missing with ⟨fault, failed⟩
        rw [prepared] at failed
        cases failed

/-! ## Dependencies -/

/-- The dependencies of a resource are what its provisioning reads. If its address is not
seeded, then two registries that have the same on record of them, with variables that
have the same values for the keys that the resource names, lead to the same calls and the
same result against any backend. If one of them is not on record, the provisioning fails
without a call. Each dependency is listed once, and they stand in the order in which the
resource names them: the source of its code first, then the slots of its template and
those of its funds. -/
theorem dependencies_are_reads
    {dependencies : List String}
    (listed : descriptor.dependencies = .ok dependencies) :
    (∀ seeds later : Seeds, seeds.address? descriptor.name = none →
        later.address? descriptor.name = none →
      ∀ (left right : Registry) (bindings others : Variables),
        left.AgreeOn right dependencies → AgreeOnKeys bindings others descriptor →
          ∀ {σ : Type} (backend : Backend σ) (state : σ),
            (resource seeds ⟨left, bindings⟩ descriptor).play backend state =
              (resource later ⟨right, others⟩ descriptor).play backend state) ∧
      (∀ seeds : Seeds, seeds.address? descriptor.name = none →
        ∀ (registry : Registry) (bindings : Variables),
          ∀ name ∈ dependencies, name ∉ registry.names →
            ∃ fault, ∀ {σ : Type} (backend : Backend σ) (state : σ),
              (resource seeds ⟨registry, bindings⟩ descriptor).play backend state =
                ⟨.error fault, [], state⟩) ∧
      dependencies.Nodup ∧
      (∀ name, name ∈ dependencies ↔ name ∈ descriptor.references) ∧
      (∀ source, descriptor.artifact = .reuse source → dependencies.head? = some source) ∧
      dependencies.Pairwise fun name later =>
        descriptor.references.idxOf name < descriptor.references.idxOf later := by
  obtain ⟨_, rfl⟩ := Descriptor.dependencies_eq_ok_iff.mp listed
  have listed_iff : ∀ name, name ∈ Descriptor.newNames [] descriptor.references ↔
      name ∈ descriptor.references := by
    intro name
    simp [Descriptor.mem_newNames]
  refine ⟨?_, ?_, Descriptor.nodup_newNames [] _, listed_iff, ?_,
    Descriptor.newNames_pairwise_idxOf [] _⟩
  · intro seeds later unseeded laterUnseeded left right bindings others agree agreeOnKeys σ
      backend state
    have agreeOnAll : left.AgreeOn right descriptor.references :=
      fun name referenced => agree name ((listed_iff name).mpr referenced)
    rw [resource_of_unseeded unseeded, resource_of_unseeded laterUnseeded,
      create_congr agreeOnAll agreeOnKeys]
  · intro seeds unseeded registry bindings name depended missing
    have referenced := (listed_iff name).mp depended
    rcases create_of_missing referenced missing with ⟨fault, failed⟩
    refine ⟨fault, fun backend state => ?_⟩
    rw [resource_of_unseeded unseeded, failed, Dialogue.play_done]
  · intro source reuses
    rw [Descriptor.references, Descriptor.source, reuses]
    rfl

/-- A resource that reuses the code of the vault and names the vault and a hub. -/
def gate : Descriptor :=
  (Descriptor.ofReuse "gate" "vault" "Gate"
    (.array [.string "$\x7bvar:owner\x7d", .string "$\x7bhub.address\x7d",
      .string "$\x7bvault.address\x7d"])).withFunds "$\x7bhub.code_id\x7dusei"

theorem dependencies_are_reads_of_gate :
    let left : Registry :=
      ⟨[.ofCreation "vault" 9 "sei1vault", .ofReuse "hub" "sei1hub" (some 3),
        .ofReuse "spare" "sei1spare" none]⟩
    let right : Registry :=
      ⟨[.ofReuse "hub" "sei1hub" (some 3), .ofReuse "vault" "sei1vault" (some 9)]⟩
    let bindings : Variables := [("colour", "red"), ("owner", "sei1owner")]
    let others : Variables := [("owner", "sei1owner")]
    let backend := Backend.ofAnswers steady
    gate.dependencies = .ok ["vault", "hub"] ∧
      left.AgreeOn right ["vault", "hub"] ∧ AgreeOnKeys bindings others gate ∧
      (resource Seeds.empty ⟨left, bindings⟩ gate).play backend () =
        (resource Seeds.empty ⟨right, others⟩ gate).play backend () ∧
      "hub" ∉ (Registry.mk [.ofCreation "vault" 9 "sei1vault"]).names ∧
      (∃ fault,
        (resource Seeds.empty ⟨⟨[.ofCreation "vault" 9 "sei1vault"]⟩, bindings⟩ gate).play
          backend () = ⟨.error fault, [], ()⟩) ∧
      gate.artifact = .reuse "vault" ∧ ["vault", "hub"].head? = some "vault" := by
  intro left right bindings others backend
  have listed : gate.dependencies = .ok ["vault", "hub"] := by decide +kernel
  have agree : left.AgreeOn right ["vault", "hub"] := by
    unfold Registry.AgreeOn
    decide
  have agreeOnKeys : AgreeOnKeys bindings others gate := by
    have slots : gate.slots =
        [.var "owner", .address "hub", .address "vault", .codeId "hub"] := by decide +kernel
    intro key named
    rw [slots] at named
    obtain rfl : key = "owner" := by simpa using named
    rfl
  have missing : "hub" ∉ (Registry.mk [.ofCreation "vault" 9 "sei1vault"]).names := by decide
  rcases dependencies_are_reads listed with ⟨reads, needs, _, _, source, _⟩
  rcases needs Seeds.empty rfl _ bindings "hub" (by simp) missing with ⟨fault, fails⟩
  exact ⟨listed, agree, agreeOnKeys,
    reads Seeds.empty Seeds.empty rfl rfl left right bindings others agree agreeOnKeys backend (),
    missing, ⟨fault, fails backend ()⟩, rfl, source "vault" rfl⟩

end Rollout.Provision
