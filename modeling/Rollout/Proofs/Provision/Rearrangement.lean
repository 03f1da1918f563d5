import Rollout.Proofs.Provision.Settlement

/-!
Contract: lists of descriptors that differ in their order alone.

Owns:
- that both of them form a graph or neither does;
- that against stateless answers the provisionings of both graphs end alike: with the
  same entry for every name and the same calls up to their order, or early.

Does not own: which fault stops a provisioning. That may differ.
-/

namespace Rollout

open Relation

variable {descriptors others : List Descriptor}

/-! ## Graphs -/

namespace Graph

private theorem sound_of_perm
    {names otherNames : List String}
    {descriptor : Descriptor}
    (rearranged : names.Perm otherNames)
    (sound : Sound names descriptor) :
    Sound otherNames descriptor := by
  refine ⟨sound.1, ?_⟩
  intro name referenced
  exact rearranged.subset (sound.2 name referenced)

private theorem Checked.of_perm
    (rearranged : descriptors.Perm others)
    (checked : Checked descriptors) :
    Checked others := by
  have names : (namesOf descriptors).Perm (namesOf others) := rearranged.map Descriptor.name
  constructor
  · exact names.nodup_iff.mp checked.distinct
  · intro descriptor member
    exact sound_of_perm names (checked.sound descriptor (rearranged.mem_iff.mpr member))

private theorem Acyclic.of_perm
    (rearranged : descriptors.Perm others)
    (acyclic : Acyclic descriptors) :
    Acyclic others := by
  have depends : ∀ name other, DependsOn others name other →
      DependsOn descriptors name other := by
    rintro name other ⟨descriptor, member, named, referenced⟩
    exact ⟨descriptor, rearranged.mem_iff.mpr member, named, referenced⟩
  intro name cycle
  exact acyclic name (cycle.lift id depends)

private theorem exists_build_of_perm
    (rearranged : descriptors.Perm others)
    (accepted : ∃ graph, build descriptors = .ok graph) :
    ∃ graph, build others = .ok graph := by
  rcases accepted with ⟨graph, built⟩
  rcases build_eq_ok_iff.mp built with ⟨checked, acyclic, _⟩
  exact ⟨_, build_of_acyclic (checked.of_perm rearranged) (acyclic.of_perm rearranged)⟩

end Graph

/-! ## Provisionings -/

namespace Provision

variable {graph other : Graph} {answers : Answers} {seeds : Seeds} {bindings : Variables}

/-- If one order of the resources comes to its end, then so does any other order that is
valid. What the first has on record settles every resource, wherever it stands. -/
theorem finishes_of_perm
    {registry : Registry}
    (valid : Graph.Valid graph)
    (otherValid : Graph.Valid other)
    (rearranged : graph.resources.Perm other.resources)
    (finished : (conduct answers seeds bindings graph.resources Registry.empty).value =
      .ok registry) :
    ∃ otherRegistry,
      (conduct answers seeds bindings other.resources Registry.empty).value =
        .ok otherRegistry ∧
      (∀ name, registry.find? name = otherRegistry.find? name) ∧
      (conduct answers seeds bindings graph.resources Registry.empty).questions.Perm
        (conduct answers seeds bindings other.resources Registry.empty).questions := by
  rcases settled_of_finished (Reached.start valid) finished with ⟨_, names, settled, calls⟩
  have otherSettled : ∀ descriptor ∈ other.resources,
      Settled answers seeds bindings registry descriptor :=
    fun descriptor member => settled descriptor (rearranged.mem_iff.mpr member)
  rcases finishes_of_settled (Reached.start otherValid) (by simp) otherSettled with
    ⟨otherRegistry, otherFinished, otherNames, finds, otherCalls⟩
  have sameNames : registry.names.Perm otherRegistry.names := by
    rw [names, otherNames]
    exact rearranged.map Descriptor.name
  refine ⟨otherRegistry, otherFinished, ?_, ?_⟩
  · intro name
    by_cases recorded : name ∈ otherRegistry.names
    · exact (finds name recorded).symm
    · have notRecorded : name ∉ registry.names := by
        rwa [sameNames.mem_iff]
      rw [Registry.find?_eq_none_iff.mpr notRecorded,
        Registry.find?_eq_none_iff.mpr recorded]
  · rw [conduct_questions, conduct_questions, calls, otherCalls]
    exact (rearranged.flatMap_right _).map Prod.snd

/-- The order in which resources are declared does not matter. Any rearrangement of the
descriptors forms a graph if they do. Against answers that depend on the call alone both
graphs are provisioned with the same entry for every name and the same calls up to their
order, or neither is provisioned to its end. -/
theorem provision_of_perm (rearranged : descriptors.Perm others) :
    ((∃ graph, Graph.build descriptors = .ok graph) ↔
        ∃ graph, Graph.build others = .ok graph) ∧
      ∀ graph other, Graph.build descriptors = .ok graph → Graph.build others = .ok other →
        ∀ (seeds : Seeds) (bindings : Variables) (answers : Answers),
          let run := (provision graph seeds bindings).play (Backend.ofAnswers answers) ()
          let otherRun := (provision other seeds bindings).play (Backend.ofAnswers answers) ()
          (∃ registry otherRegistry,
              run.value = .ok registry ∧ otherRun.value = .ok otherRegistry ∧
                (∀ name, registry.find? name = otherRegistry.find? name) ∧
                run.questions.Perm otherRun.questions) ∨
            ∃ aborted otherAborted,
              run.value = .error aborted ∧ otherRun.value = .error otherAborted := by
  constructor
  · exact ⟨Graph.exists_build_of_perm rearranged, Graph.exists_build_of_perm rearranged.symm⟩
  · intro graph other built otherBuilt seeds bindings answers run otherRun
    have valid := Graph.valid_of_build built
    have otherValid := Graph.valid_of_build otherBuilt
    have resources : graph.resources.Perm other.resources :=
      (Graph.resources_perm built).trans
        (rearranged.trans (Graph.resources_perm otherBuilt).symm)
    cases value : run.value with
    | ok registry =>
        rcases finishes_of_perm valid otherValid resources value with
          ⟨otherRegistry, otherValue, finds, calls⟩
        exact Or.inl ⟨registry, otherRegistry, rfl, otherValue, finds, calls⟩
    | error aborted =>
        right
        cases otherValue : otherRun.value with
        | error otherAborted => exact ⟨aborted, otherAborted, rfl, rfl⟩
        | ok otherRegistry =>
            rcases finishes_of_perm otherValid valid resources.symm otherValue with
              ⟨registry, finished, _, _⟩
            have contrary := value.symm.trans finished
            cases contrary

def annex : Descriptor :=
  .ofUpload "annex" "annex.wasm" "Annex" .null

theorem provision_of_perm_of_annex :
    let bindings : Variables := [("owner", "sei1owner")]
    let run := (provision ⟨[vault, twin, annex]⟩ Seeds.empty bindings).play
      (Backend.ofAnswers steady) ()
    let otherRun := (provision ⟨[annex, vault, twin]⟩ Seeds.empty bindings).play
      (Backend.ofAnswers steady) ()
    [vault, twin, annex].Perm [annex, twin, vault] ∧
      Graph.build [vault, twin, annex] = .ok ⟨[vault, twin, annex]⟩ ∧
      Graph.build [annex, twin, vault] = .ok ⟨[annex, vault, twin]⟩ ∧
      run.questions ≠ otherRun.questions ∧
      ∃ registry otherRegistry,
        run.value = .ok registry ∧ otherRun.value = .ok otherRegistry ∧
          (∀ name, registry.find? name = otherRegistry.find? name) ∧
          run.questions.Perm otherRun.questions := by
  have rearranged : [vault, twin, annex].Perm [annex, twin, vault] := by decide
  have built : Graph.build [vault, twin, annex] = .ok ⟨[vault, twin, annex]⟩ := rfl
  have otherBuilt : Graph.build [annex, twin, vault] = .ok ⟨[annex, vault, twin]⟩ := rfl
  refine ⟨rearranged, built, otherBuilt, by decide +kernel, ?_⟩
  rcases (provision_of_perm rearranged).2 _ _ built otherBuilt Seeds.empty
    [("owner", "sei1owner")] steady with finished | ⟨_, _, stopped, _⟩
  · exact finished
  · cases stopped

end Provision

end Rollout
