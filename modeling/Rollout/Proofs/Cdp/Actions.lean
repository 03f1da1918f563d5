import Rollout.Proofs.Cdp.Deployment

/-!
Contract: the actions of a deployment with their answers, and what they do to the file.

Owns:
- the deployments file after actions, which is that of a disk;
- the calls of an exchange as actions, and which of them provisioning makes;
- the actions that record a registry, whoever answers.

Does not own: the order of the phases.
-/

namespace Rollout.Cdp

open Dialogue (Path)

/-! ## Actions -/

abbrev ActionRound : Type :=
  Dialogue.Round Action Action.Answer

def acted (round : CallRound) : ActionRound :=
  ⟨.call round.question, round.answer⟩

/-- The deployments file after an action. Only a text that could be saved replaces it. -/
def fileAfterRound (file : FileState) : ActionRound → FileState
  | ⟨.save content, .ok ()⟩ => .text content
  | _ => file

def fileAfter (file : FileState) (rounds : List ActionRound) : FileState :=
  rounds.foldl fileAfterRound file

/-- A call that only scenarios and inspections make. -/
def Late (round : ActionRound) : Prop :=
  ∃ call, round.question = .call call ∧
    (call.operation = .execute ∨ call.operation = .migrate ∨ call.operation = .query)

/-- A call that provisioning makes. -/
def Founding (call : Call) : Prop :=
  call.operation = .registerArtifact ∨ call.operation = .instantiate

variable {options : Options} {bindings : Variables} {file after : FileState}
  {registry : Registry} {seeds : Seeds} {graph : Graph} {calls : List CallRound}
  {rounds saves : List ActionRound}

@[simp] theorem fileAfter_append (first second : List ActionRound) :
    fileAfter file (first ++ second) = fileAfter (fileAfter file first) second :=
  List.foldl_append

@[simp] theorem fileAfter_calls (calls : List CallRound) :
    fileAfter file (calls.map acted) = file := by
  induction calls with
  | nil => rfl
  | cons round rest inductionHypothesis => exact inductionHypothesis

/-- On a disk, the file at the end is the one after the actions. -/
theorem file_onDisk
    {σ α : Type}
    {signer : String}
    {backend : Backend σ}
    (procedure : Procedure α)
    (memory : σ)
    (file : FileState) :
    (procedure.play (onDisk signer backend) (memory, file)).state.2 =
      fileAfter file (procedure.rounds (onDisk signer backend) (memory, file)) := by
  induction procedure generalizing memory file with
  | done value => rfl
  | ask action next inductionHypothesis =>
      cases action with
      | connect config => exact inductionHypothesis _ memory file
      | call call => exact inductionHypothesis _ _ file
      | save content =>
          simp only [Dialogue.play_ask, Dialogue.rounds, onDisk]
          cases saving : file.save content with
          | error fault => exact inductionHypothesis _ memory file
          | ok saved =>
              have replaced : saved = .text content := by
                cases file with
                | unreachable fault => cases saving
                | blocked fault => cases saving
                | _ => exact (Except.ok.inj saving).symm
              subst replaced
              exact inductionHypothesis _ memory _

theorem path_onChain_iff
    {α : Type}
    {exchange : Exchange α}
    {result : α} :
    Path (onChain exchange) rounds result ↔
      ∃ calls, rounds = calls.map acted ∧ Path exchange calls result := by
  induction exchange generalizing rounds with
  | done value =>
      rw [onChain, Dialogue.path_done_iff]
      constructor
      · rintro ⟨rfl, rfl⟩
        exact ⟨[], rfl, .done _⟩
      · rintro ⟨calls, rfl, path⟩
        obtain ⟨rfl, rfl⟩ := Dialogue.path_done_iff.mp path
        exact ⟨rfl, rfl⟩
  | ask call next inductionHypothesis =>
      rw [onChain, Dialogue.path_ask_iff]
      constructor
      · rintro ⟨answer, later, rfl, path⟩
        obtain ⟨calls, rfl, callPath⟩ := (inductionHypothesis answer).mp path
        exact ⟨⟨call, answer⟩ :: calls, rfl, .ask callPath⟩
      · rintro ⟨calls, rfl, path⟩
        obtain ⟨answer, later, rfl, rest⟩ := Dialogue.path_ask_iff.mp path
        exact ⟨answer, later.map acted, rfl, (inductionHypothesis answer).mpr ⟨later, rfl, rest⟩⟩

/-! ## Provisioning -/

private theorem instantiate_founding
    (descriptor : Descriptor)
    (preparation : Provision.Preparation)
    (codeId : CodeId) :
    (Provision.instantiate descriptor preparation codeId).AsksOnly Founding :=
  ⟨.inr rfl, fun
    | .ok _ => trivial
    | .error _ => trivial⟩

private theorem create_founding (scope : Scope) (descriptor : Descriptor) :
    (Provision.create scope descriptor).AsksOnly Founding := by
  unfold Provision.create
  split
  · trivial
  · rename_i preparation _
    split
    · exact ⟨.inl rfl, fun
        | .ok codeId => instantiate_founding descriptor preparation codeId
        | .error _ => trivial⟩
    · split
      · exact instantiate_founding descriptor preparation _
      · trivial

private theorem resource_founding (seeds : Seeds) (scope : Scope) (descriptor : Descriptor) :
    (Provision.resource seeds scope descriptor).AsksOnly Founding := by
  unfold Provision.resource
  split
  · trivial
  · exact create_founding scope descriptor

private theorem walk_founding
    (seeds : Seeds)
    (bindings : Variables)
    (resources : List Descriptor)
    (registry : Registry) :
    (Provision.walk seeds bindings resources registry).AsksOnly Founding := by
  induction resources generalizing registry with
  | nil => trivial
  | cons descriptor rest inductionHypothesis =>
      exact (resource_founding seeds ⟨registry, bindings⟩ descriptor).bind fun
        | .error _ => trivial
        | .ok entry => inductionHypothesis (registry.record entry)

/-- Provisioning makes no call that scenarios and inspections make. -/
theorem not_late_of_provision
    {outcome : Except Aborted Registry}
    (path : Path (provision graph seeds bindings) calls outcome) :
    ∀ round ∈ calls.map acted, ¬ Late round := by
  rw [List.forall_mem_map]
  intro round member late
  have founding := (walk_founding seeds bindings graph.resources Registry.empty).allowed_of_path
    path round member
  obtain ⟨call, same, late⟩ := late
  cases same
  rcases founding with founding | founding <;> simp [founding] at late

/-! ## Recording -/

/-- The actions that record a registry in the deployments file, whether they worked, and
the file afterwards. -/
inductive Persisted (options : Options) (file : FileState) (registry : Registry) :
    List ActionRound → Except DeploymentFault Unit → FileState → Prop where
  /-- A rehearsal records nothing. -/
  | rehearsed (dry : options.dryRun = true) : Persisted options file registry [] (.ok ()) file
  /-- The content of the file has no place for the registry. -/
  | refused {fault : DeploymentsFault}
      (live : options.dryRun = false)
      (refused : Deployments.updated options.deploymentsPath registry file = .error fault) :
      Persisted options file registry [] (.error (.deployments fault)) file
  | unsaved {content : String}
      (live : options.dryRun = false)
      (updated : Deployments.updated options.deploymentsPath registry file = .ok content)
      (fault : FileFault) :
      Persisted options file registry [⟨.save content, .error fault⟩]
        (.error (.deployments (.write (.file fault)))) file
  | saved {content : String}
      (live : options.dryRun = false)
      (updated : Deployments.updated options.deploymentsPath registry file = .ok content) :
      Persisted options file registry [⟨.save content, .ok ()⟩] (.ok ()) (.text content)

theorem persisted_of_path
    {result : Except DeploymentFault Unit}
    (path : Path (persist options file registry) rounds result) :
    Persisted options file registry rounds result (fileAfter file rounds) := by
  unfold persist at path
  split at path
  · rename_i dry
    obtain ⟨rfl, rfl⟩ := Dialogue.path_done_iff.mp path
    exact .rehearsed dry
  · rename_i live
    have live : options.dryRun = false := by simpa using live
    split at path
    · rename_i refused
      obtain ⟨rfl, rfl⟩ := Dialogue.path_done_iff.mp path
      exact .refused live refused
    · rename_i updated
      obtain ⟨answer, later, rfl, rest⟩ := Dialogue.path_ask_iff.mp path
      cases answer with
      | ok done =>
          obtain ⟨rfl, rfl⟩ := Dialogue.path_done_iff.mp rest
          exact .saved live updated
      | error fault =>
          obtain ⟨rfl, rfl⟩ := Dialogue.path_done_iff.mp rest
          exact .unsaved live updated fault

theorem Persisted.path
    {result : Except DeploymentFault Unit}
    (persisted : Persisted options file registry saves result after) :
    Path (persist options file registry) saves result := by
  unfold persist
  cases persisted with
  | rehearsed dry =>
      rw [if_pos dry]
      exact .done _
  | refused live refused =>
      simp only [live, refused]
      exact .done _
  | unsaved live updated fault =>
      simp only [live, updated]
      exact .ask (.done _)
  | saved live updated =>
      simp only [live, updated]
      exact .ask (.done _)

private theorem not_late_save {content : String} {answer : Except FileFault Unit} :
    ¬ Late ⟨.save content, answer⟩ := by
  rintro ⟨call, same, _⟩
  cases same

theorem Persisted.not_late
    {result : Except DeploymentFault Unit}
    (persisted : Persisted options file registry saves result after) :
    ∀ round ∈ saves, ¬ Late round := by
  cases persisted with
  | rehearsed _ => exact nofun
  | refused _ _ => exact nofun
  | unsaved _ _ _ => exact List.forall_mem_singleton.mpr not_late_save
  | saved _ _ => exact List.forall_mem_singleton.mpr not_late_save

end Rollout.Cdp
