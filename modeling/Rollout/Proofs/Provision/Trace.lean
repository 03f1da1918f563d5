import Rollout.Proofs.Dialogue.Rounds
import Rollout.Proofs.Graph.Validation
import Rollout.Proofs.Provision.Preparation

/-!
Contract: the calls of a provisioning, with their answers.

Owns:
- the rounds in which one resource becomes live, and those in which it fails;
- the rounds of a walk as those of its resources, one after the other;
- that a provisioning records the resources of its graph in order, up to the first one
  that fails.

Does not own: what the recorded entries are good for.
-/

namespace Rollout

abbrev CallRound : Type :=
  Dialogue.Round Call Call.Answer

namespace Provision

/-! ## One resource -/

def registration
    (locator : String)
    (answer : Except BackendFault CodeId) :
    CallRound :=
  ⟨.registerArtifact locator, answer⟩

def instantiation
    (descriptor : Descriptor)
    (preparation : Preparation)
    (codeId : CodeId)
    (answer : Except BackendFault String) :
    CallRound :=
  ⟨.instantiate codeId preparation.payload preparation.funds descriptor.label, answer⟩

section Resource

variable (seeds : Seeds) (scope : Scope) (descriptor : Descriptor)

/-- The code that a resource is instantiated from, and the rounds that obtain it: its
artifact is registered, or the code id of its source is on record. -/
inductive Coded : List CallRound → CodeId → Prop where
  | uploaded {locator : String} {codeId : CodeId}
      (own : descriptor.artifact = .upload locator) :
      Coded [registration locator (.ok codeId)] codeId
  | borrowed {source : String} {codeId : CodeId}
      (reuses : descriptor.artifact = .reuse source)
      (known : scope.registry.codeId? source = some codeId) :
      Coded [] codeId

/-- The rounds in which a resource becomes live, and its entry. -/
inductive Live : List CallRound → Entry → Prop where
  /-- A resource with a seeded address is taken as it is, without any call. -/
  | seeded {address : String}
      (known : seeds.address? descriptor.name = some address) :
      Live [] (.ofReuse descriptor.name address (seeds.codeId? descriptor.name))
  /-- Any other resource is prepared, its code is obtained, and it is instantiated. -/
  | created {preparation : Preparation} {codeRounds : List CallRound} {codeId : CodeId}
      {address : String}
      (unseeded : seeds.address? descriptor.name = none)
      (prepared : prepare scope descriptor = .ok preparation)
      (coded : Coded scope descriptor codeRounds codeId) :
      Live (codeRounds ++ [instantiation descriptor preparation codeId (.ok address)])
        (.ofCreation descriptor.name codeId address)

/-- The rounds in which a resource without a seeded address fails, and its fault. -/
inductive Fails : List CallRound → ProvisionFault → Prop where
  /-- Its template or its funds cannot be resolved. -/
  | unresolved {fault : ResolveFault}
      (unseeded : seeds.address? descriptor.name = none)
      (unprepared : prepare scope descriptor = .error (.unresolved descriptor.name fault)) :
      Fails [] (.unresolved descriptor.name fault)
  /-- Its funds are no coin list. -/
  | invalidFunds {fault : CoinFault}
      (unseeded : seeds.address? descriptor.name = none)
      (unprepared : prepare scope descriptor = .error (.invalidFunds descriptor.name fault)) :
      Fails [] (.invalidFunds descriptor.name fault)
  /-- Its source has no code id on record. -/
  | codeless {preparation : Preparation} {source : String}
      (unseeded : seeds.address? descriptor.name = none)
      (prepared : prepare scope descriptor = .ok preparation)
      (reuses : descriptor.artifact = .reuse source)
      (unknown : scope.registry.codeId? source = none) :
      Fails [] (.unresolved descriptor.name (.unresolved (.codeId source)))
  /-- Its artifact is not registered. -/
  | unregistered {preparation : Preparation} {locator : String} {fault : BackendFault}
      (unseeded : seeds.address? descriptor.name = none)
      (prepared : prepare scope descriptor = .ok preparation)
      (own : descriptor.artifact = .upload locator) :
      Fails [registration locator (.error fault)]
        (.backend descriptor.name .registerArtifact fault)
  /-- It is not instantiated. -/
  | uninstantiated {preparation : Preparation} {codeRounds : List CallRound}
      {codeId : CodeId} {fault : BackendFault}
      (unseeded : seeds.address? descriptor.name = none)
      (prepared : prepare scope descriptor = .ok preparation)
      (coded : Coded scope descriptor codeRounds codeId) :
      Fails (codeRounds ++ [instantiation descriptor preparation codeId (.error fault)])
        (.backend descriptor.name .instantiate fault)

/-- How the provisioning of a resource ends: it is live, or it failed. -/
def Settles (rounds : List CallRound) : Except ProvisionFault Entry → Prop
  | .ok entry => Live seeds scope descriptor rounds entry
  | .error fault => Fails seeds scope descriptor rounds fault

end Resource

variable {seeds : Seeds} {scope : Scope} {bindings : Variables} {descriptor : Descriptor}
  {rounds : List CallRound}

/-- From known code a prepared resource is instantiated, and that settles it. -/
private theorem settles_of_path_instantiate
    {preparation : Preparation}
    {codeRounds : List CallRound}
    {codeId : CodeId}
    {outcome : Except ProvisionFault Entry}
    (unseeded : seeds.address? descriptor.name = none)
    (prepared : prepare scope descriptor = .ok preparation)
    (coded : Coded scope descriptor codeRounds codeId)
    (path : Dialogue.Path (instantiate descriptor preparation codeId) rounds outcome) :
    Settles seeds scope descriptor (codeRounds ++ rounds) outcome := by
  obtain ⟨answer, later, rfl, rest⟩ := Dialogue.path_ask_iff.mp path
  cases answer with
  | error fault =>
      obtain ⟨rfl, rfl⟩ := Dialogue.path_done_iff.mp rest
      exact .uninstantiated unseeded prepared coded
  | ok address =>
      obtain ⟨rfl, rfl⟩ := Dialogue.path_done_iff.mp rest
      exact .created unseeded prepared coded

private theorem settles_of_path_create
    {outcome : Except ProvisionFault Entry}
    (unseeded : seeds.address? descriptor.name = none)
    (path : Dialogue.Path (create scope descriptor) rounds outcome) :
    Settles seeds scope descriptor rounds outcome := by
  unfold create at path
  cases prepared : prepare scope descriptor with
  | error fault =>
      simp only [prepared] at path
      obtain ⟨rfl, rfl⟩ := Dialogue.path_done_iff.mp path
      rcases prepare_fault prepared with ⟨stop, rfl⟩ | ⟨stop, rfl⟩
      · exact .unresolved unseeded prepared
      · exact .invalidFunds unseeded prepared
  | ok preparation =>
      simp only [prepared] at path
      cases artifact : descriptor.artifact with
      | upload locator =>
          simp only [artifact] at path
          obtain ⟨answer, later, rfl, rest⟩ := Dialogue.path_ask_iff.mp path
          cases answer with
          | error fault =>
              obtain ⟨rfl, rfl⟩ := Dialogue.path_done_iff.mp rest
              exact .unregistered unseeded prepared artifact
          | ok codeId =>
              exact settles_of_path_instantiate unseeded prepared (.uploaded artifact) rest
      | reuse source =>
          simp only [artifact] at path
          cases known : scope.registry.codeId? source with
          | none =>
              simp only [known] at path
              obtain ⟨rfl, rfl⟩ := Dialogue.path_done_iff.mp path
              exact .codeless unseeded prepared artifact known
          | some codeId =>
              simp only [known] at path
              exact settles_of_path_instantiate unseeded prepared
                (.borrowed artifact known) path

/-- However a backend answers, a resource becomes live or fails in one of the ways
given. -/
theorem settles_of_path
    {outcome : Except ProvisionFault Entry}
    (path : Dialogue.Path (resource seeds scope descriptor) rounds outcome) :
    Settles seeds scope descriptor rounds outcome := by
  unfold resource at path
  cases seeded : seeds.address? descriptor.name with
  | some address =>
      simp only [seeded] at path
      obtain ⟨rfl, rfl⟩ := Dialogue.path_done_iff.mp path
      exact .seeded seeded
  | none =>
      simp only [seeded] at path
      exact settles_of_path_create seeded path

theorem Live.name_eq
    {entry : Entry}
    (live : Live seeds scope descriptor rounds entry) :
    entry.name = descriptor.name := by
  cases live <;> rfl

theorem Fails.resource_eq
    {fault : ProvisionFault}
    (fails : Fails seeds scope descriptor rounds fault) :
    fault.resource = descriptor.name := by
  cases fails <;> rfl

theorem Fails.unseeded
    {fault : ProvisionFault}
    (fails : Fails seeds scope descriptor rounds fault) :
    seeds.address? descriptor.name = none := by
  cases fails <;> assumption

/-! ## Walks -/

/-- The rounds in which resources become live one after the other, after those that a
registry records, and the registry that records them all. -/
inductive Walked (seeds : Seeds) (bindings : Variables) :
    List Descriptor → Registry → List CallRound → Registry → Prop where
  | done (registry : Registry) : Walked seeds bindings [] registry [] registry
  | next {descriptor : Descriptor} {rest : List Descriptor} {registry final : Registry}
      {entry : Entry} {rounds later : List CallRound}
      (live : Live seeds ⟨registry, bindings⟩ descriptor rounds entry)
      (others : Walked seeds bindings rest (registry.record entry) later final) :
      Walked seeds bindings (descriptor :: rest) registry (rounds ++ later) final

/-- The rounds in which a walk stops: resources become live up to one that fails. -/
structure Stopped (seeds : Seeds) (bindings : Variables) (descriptors : List Descriptor)
    (registry : Registry) (rounds : List CallRound) (aborted : Aborted)
    (before : List Descriptor) (descriptor : Descriptor) (after : List Descriptor) :
    Prop where
  split : descriptors = before ++ descriptor :: after
  /-- The rounds of the live resources stand before those of the failing one. -/
  rounds_split : ∃ first last, rounds = first ++ last ∧
    Walked seeds bindings before registry first aborted.registry ∧
    Fails seeds ⟨aborted.registry, bindings⟩ descriptor last aborted.fault

/-- How a walk ends: all resources are live, or it stopped at one that failed. -/
def Ends
    (seeds : Seeds)
    (bindings : Variables)
    (descriptors : List Descriptor)
    (registry : Registry)
    (rounds : List CallRound) :
    Except Aborted Registry → Prop
  | .ok final => Walked seeds bindings descriptors registry rounds final
  | .error aborted => ∃ before descriptor after,
      Stopped seeds bindings descriptors registry rounds aborted before descriptor after

/-- However a backend answers, a walk goes through its resources in order, up to the
first one that fails. -/
theorem ends_of_path
    {descriptors : List Descriptor}
    {registry : Registry}
    {outcome : Except Aborted Registry}
    (path : Dialogue.Path (walk seeds bindings descriptors registry) rounds outcome) :
    Ends seeds bindings descriptors registry rounds outcome := by
  induction descriptors generalizing registry rounds with
  | nil =>
      obtain ⟨rfl, rfl⟩ := Dialogue.path_done_iff.mp path
      exact .done registry
  | cons descriptor rest inductionHypothesis =>
      obtain ⟨first, settled, later, rfl, ofResource, ofRest⟩ :=
        Dialogue.path_bind_iff.mp path
      have settles := settles_of_path ofResource
      -- A resource that is live stays in front of wherever the rest of the walk stops.
      cases settled with
      | error fault =>
          obtain ⟨rfl, rfl⟩ := Dialogue.path_done_iff.mp ofRest
          exact ⟨[], descriptor, rest, rfl, [], first, by simp, .done registry, settles⟩
      | ok entry =>
          have ends := inductionHypothesis ofRest
          cases outcome with
          | ok final => exact .next settles ends
          | error aborted =>
              obtain ⟨before, stuck, after, rfl, walkedRounds, last, rfl, walked, fails⟩ := ends
              exact ⟨descriptor :: before, stuck, after, rfl, first ++ walkedRounds, last,
                by simp, .next settles walked, fails⟩

end Provision

end Rollout
