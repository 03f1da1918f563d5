import Rollout.Proofs.Graph.Validation
import Rollout.Proofs.Provision.Trace
import Rollout.Proofs.Registry

/-!
Contract: what the provisioning of a graph records.

Owns:
- that a walk records its resources in order, each when nothing of its name is on
  record, and whether from a seed or from a creation;
- the calls and the record of the provisioning of a graph, from its start to its end or
  to the resource that fails.

Does not own: which faults can occur.
-/

namespace Rollout

namespace Provision

variable {seeds : Seeds} {bindings : Variables} {registry final : Registry}
  {resources : List Descriptor} {rounds : List CallRound}

/-! ## Names and entries of a walk -/

theorem Walked.names_eq
    (walked : Walked seeds bindings resources registry rounds final) :
    final.names = registry.names ++ Graph.namesOf resources := by
  induction walked with
  | done registry => simp
  | next live others inductionHypothesis =>
      rw [inductionHypothesis, Registry.record_names, live.name_eq, List.append_assoc]
      rfl

/-- The entry of a seeded resource, as the seeds have it, or of a created one. -/
inductive Sourced (seeds : Seeds) : Entry → Prop where
  | seeded {name address : String}
      (known : seeds.address? name = some address) :
      Sourced seeds (.ofReuse name address (seeds.codeId? name))
  | created {name address : String} {codeId : CodeId}
      (unseeded : seeds.address? name = none) :
      Sourced seeds (.ofCreation name codeId address)

private theorem Live.sourced
    {scope : Scope}
    {descriptor : Descriptor}
    {entry : Entry}
    (live : Live seeds scope descriptor rounds entry) :
    Sourced seeds entry := by
  cases live with
  | seeded known => exact .seeded known
  | created unseeded _ _ => exact .created unseeded

theorem Live.sourced_record
    {scope : Scope}
    {descriptor : Descriptor}
    {entry : Entry}
    (live : Live seeds scope descriptor rounds entry)
    (recorded : ∀ earlier ∈ registry.entries, Sourced seeds earlier) :
    ∀ earlier ∈ (registry.record entry).entries, Sourced seeds earlier := by
  intro earlier member
  rcases List.mem_append.mp member with onRecord | last
  · exact recorded earlier onRecord
  · rw [List.mem_singleton.mp last]
    exact live.sourced

private theorem Walked.sourced
    (walked : Walked seeds bindings resources registry rounds final)
    (recorded : ∀ entry ∈ registry.entries, Sourced seeds entry) :
    ∀ entry ∈ final.entries, Sourced seeds entry := by
  induction walked with
  | done registry => exact recorded
  | next live others inductionHypothesis =>
      exact inductionHypothesis (live.sourced_record recorded)

/-! ## The provisioning of a graph -/

/-- What a provisioning recorded, whether it came to its end or stopped. -/
def recorded : Except Aborted Registry → Registry
  | .ok registry => registry
  | .error aborted => aborted.registry

theorem Ends.exists_walked
    {outcome : Except Aborted Registry}
    (ends : Ends seeds bindings resources registry rounds outcome) :
    ∃ before after first, resources = before ++ after ∧
      Walked seeds bindings before registry first (recorded outcome) := by
  cases outcome with
  | ok final => exact ⟨resources, [], rounds, by simp, ends⟩
  | error aborted =>
      obtain ⟨before, descriptor, after, split, first, _, _, walked, _⟩ := ends
      exact ⟨before, descriptor :: after, first, split, walked⟩

theorem ends_provision
    {σ : Type}
    (graph : Graph)
    (seeds : Seeds)
    (bindings : Variables)
    (backend : Backend σ)
    (state : σ) :
    Ends seeds bindings graph.resources Registry.empty
      ((provision graph seeds bindings).rounds backend state)
      ((provision graph seeds bindings).play backend state).value :=
  ends_of_path (Dialogue.path_rounds backend (provision graph seeds bindings) state)

/-- The names on record are the first ones of the order. -/
theorem Ends.names_prefix
    {graph : Graph}
    {outcome : Except Aborted Registry}
    (ends : Ends seeds bindings graph.resources Registry.empty rounds outcome) :
    (recorded outcome).names <+: graph.names := by
  obtain ⟨before, after, first, split, walked⟩ := ends.exists_walked
  have names := walked.names_eq
  rw [Registry.empty_names, List.nil_append] at names
  rw [names, Graph.names, split, List.map_append]
  exact List.prefix_append _ _

theorem Ends.names_nodup
    {graph : Graph}
    {outcome : Except Aborted Registry}
    (ends : Ends seeds bindings graph.resources Registry.empty rounds outcome)
    (distinct : graph.names.Nodup) :
    (recorded outcome).names.Nodup :=
  distinct.sublist ends.names_prefix.sublist

theorem Ends.sourced
    {graph : Graph}
    {outcome : Except Aborted Registry}
    (ends : Ends seeds bindings graph.resources Registry.empty rounds outcome) :
    ∀ entry ∈ (recorded outcome).entries, Sourced seeds entry := by
  obtain ⟨_, _, _, _, walked⟩ := ends.exists_walked
  exact walked.sourced (by simp [Registry.empty])

/-- A stopped walk has on record the resources before the one that failed. -/
theorem Stopped.names_eq
    {aborted : Aborted}
    {before after : List Descriptor}
    {descriptor : Descriptor}
    (stopped : Stopped seeds bindings resources Registry.empty rounds aborted
      before descriptor after) :
    aborted.registry.names = Graph.namesOf before := by
  obtain ⟨_, _, _, walked, _⟩ := stopped.rounds_split
  simpa using walked.names_eq

private theorem Stopped.resource_eq
    {aborted : Aborted}
    {before after : List Descriptor}
    {descriptor : Descriptor}
    (stopped : Stopped seeds bindings resources registry rounds aborted
      before descriptor after) :
    aborted.fault.resource = descriptor.name := by
  obtain ⟨_, _, _, _, fails⟩ := stopped.rounds_split
  exact fails.resource_eq

theorem Stopped.unseeded
    {aborted : Aborted}
    {before after : List Descriptor}
    {descriptor : Descriptor}
    (stopped : Stopped seeds bindings resources registry rounds aborted
      before descriptor after) :
    seeds.address? descriptor.name = none := by
  obtain ⟨_, _, _, _, fails⟩ := stopped.rounds_split
  exact fails.unseeded

/-- All names are on record exactly if the provisioning came to its end. -/
theorem Ends.ok_iff_names_eq
    {graph : Graph}
    {outcome : Except Aborted Registry}
    (ends : Ends seeds bindings graph.resources Registry.empty rounds outcome) :
    (∃ final, outcome = .ok final) ↔ (recorded outcome).names = graph.names := by
  cases outcome with
  | ok final =>
      have names : final.names = graph.names := by
        simpa [Graph.names] using Walked.names_eq ends
      simpa [recorded] using names
  | error aborted =>
      obtain ⟨before, descriptor, after, stopped⟩ := ends
      have shorter : aborted.registry.names ≠ graph.names := by
        rw [stopped.names_eq, Graph.names, stopped.split]
        simp
      simpa [recorded] using shorter

/-- Whatever is seeded and however the backend answers, the calls are those of the
resources in order, up to the first one that fails. The resources before it are on
record, and each was recorded when nothing of its name was. -/
theorem provision_trace
    {σ : Type}
    {descriptors : List Descriptor}
    {graph : Graph}
    (built : Graph.build descriptors = .ok graph)
    (seeds : Seeds)
    (bindings : Variables)
    (backend : Backend σ)
    (state : σ) :
    let run := (provision graph seeds bindings).play backend state
    let rounds := (provision graph seeds bindings).rounds backend state
    run.questions = rounds.map Dialogue.Round.question ∧
      (recorded run.value).names <+: graph.names ∧
      (recorded run.value).names.Nodup ∧
      (recorded run.value).Unrepeated ∧
      ((∃ final, run.value = .ok final) ↔ (recorded run.value).names = graph.names) ∧
      (∀ final, run.value = .ok final →
        Walked seeds bindings graph.resources Registry.empty rounds final) ∧
      ∀ aborted, run.value = .error aborted →
        ∃ before descriptor after,
          Stopped seeds bindings graph.resources Registry.empty rounds aborted
            before descriptor after ∧
          aborted.registry.names = Graph.namesOf before ∧
          aborted.fault.resource = descriptor.name := by
  intro run rounds
  have ends := ends_provision graph seeds bindings backend state
  have distinct := ends.names_nodup (Graph.valid_of_build built).distinct
  refine ⟨?_, ends.names_prefix, distinct, Registry.unrepeated_of_nodup distinct,
    ends.ok_iff_names_eq, ?_, ?_⟩
  · exact (Dialogue.rounds_questions backend (provision graph seeds bindings) state).symm
  · intro final finished
    rw [finished] at ends
    exact ends
  · intro aborted failed
    rw [failed] at ends
    obtain ⟨before, descriptor, after, stopped⟩ := ends
    exact ⟨before, descriptor, after, stopped, stopped.names_eq, stopped.resource_eq⟩

/-- A resource with code of its own, whose message names a variable. -/
def vault : Descriptor :=
  .ofUpload "vault" "vault.wasm" "Vault" (.string "$\x7bvar:owner\x7d")

/-- A resource that reuses that code and names the address of the first. -/
def twin : Descriptor :=
  .ofReuse "twin" "vault" "Twin" (.string "$\x7bvault.address\x7d")

def vaultsOnly : Backend Unit :=
  Backend.ofAnswers fun
    | .registerArtifact _ => .ok 7
    | .instantiate _ _ _ "Vault" => .ok "sei1vault"
    | _ => .error .unreadable

theorem provision_trace_of_failing_twin :
    let exchange := provision ⟨[vault, twin]⟩ Seeds.empty [("owner", "sei1owner")]
    Graph.build [twin, vault] = .ok ⟨[vault, twin]⟩ ∧
      ∃ aborted, (exchange.play vaultsOnly ()).value = .error aborted ∧
        aborted.registry.names = ["vault"] ∧
        ∃ before descriptor after,
          Stopped Seeds.empty [("owner", "sei1owner")] [vault, twin] Registry.empty
            (exchange.rounds vaultsOnly ()) aborted before descriptor after ∧
          aborted.registry.names = Graph.namesOf before ∧
          aborted.fault.resource = descriptor.name := by
  have built : Graph.build [twin, vault] = .ok ⟨[vault, twin]⟩ := rfl
  have trace := provision_trace built Seeds.empty [("owner", "sei1owner")] vaultsOnly ()
  exact ⟨built, _, rfl, rfl, trace.2.2.2.2.2.2 _ rfl⟩

end Provision

end Rollout
