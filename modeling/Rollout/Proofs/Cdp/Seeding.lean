import Rollout.Cdp.Seeding
import Rollout.Proofs.Occurrence
import Rollout.Proofs.Seeds

/-!
Contract: what is known about resources once the seeds of the environment are laid over
those of the file.

Owns:
- the seed that the environment gives for a resource;
- that laying these seeds over known ones works or fails for the environment alone, and
  fails for the first variable that is no code id;
- what is known about a resource afterwards.

Does not own: which resources are asked for.
-/

namespace Rollout.Cdp

variable {environment : Environment} {names : List String} {seeds later : Seeds}

/-- The seed that the environment gives for a resource. Nothing is known if a variable
is no code id. -/
def givenSeed (environment : Environment) (resource : String) : Seed :=
  match environmentSeed environment resource with
  | .ok given => given
  | .error _ => Seed.unknown

theorem givenSeed_of_ok
    {resource : String}
    {given : Seed}
    (gives : environmentSeed environment resource = .ok given) :
    givenSeed environment resource = given := by
  rw [givenSeed, gives]

theorem codeId_givenSeed_iff
    {resource : String}
    {codeId : CodeId} :
    (givenSeed environment resource).codeId = some codeId ↔
      environmentCodeId environment resource = .ok (some codeId) := by
  unfold givenSeed environmentSeed
  cases environmentCodeId environment resource <;> simp [Seed.unknown]

/-- Whether the seeds of the environment can be laid over known ones depends on the
environment alone. -/
theorem exists_overlayEnvironment_iff :
    (∃ later, overlayEnvironment environment names seeds = .ok later) ↔
      ∀ name ∈ names, ∃ given, environmentSeed environment name = .ok given := by
  induction names generalizing seeds with
  | nil => simp [overlayEnvironment]
  | cons name rest inductionHypothesis =>
      rw [List.forall_mem_cons, overlayEnvironment]
      cases environmentSeed environment name with
      | error fault => simp
      | ok given => simp [inductionHypothesis]

/-- The variable of a resource that should hold a code id does not. -/
def InvalidCodeId (environment : Environment) (resource : String) : Prop :=
  ∃ fault, environmentCodeId environment resource = .error fault

theorem invalidCodeId_iff {resource : String} :
    InvalidCodeId environment resource ↔
      ∃ fault, environmentSeed environment resource = .error fault := by
  unfold InvalidCodeId environmentSeed
  cases environmentCodeId environment resource <;> simp

/-- The seeds of the environment cannot be laid over known ones because of the first
variable that is no code id. -/
theorem exists_isFirst_of_overlayEnvironment
    {fault : SeedFault}
    {stopped : Seeds}
    (overlaid : overlayEnvironment environment names seeds = .error (fault, stopped)) :
    ∃ name, IsFirst (InvalidCodeId environment) names name ∧
      environmentCodeId environment name = .error fault := by
  induction names generalizing seeds with
  | nil => cases overlaid
  | cons head rest inductionHypothesis =>
      rw [overlayEnvironment] at overlaid
      split at overlaid
      · rename_i headFault fails
        cases overlaid
        have invalid : environmentCodeId environment head = .error fault := by
          unfold environmentSeed at fails
          split at fails
          · rename_i isFault
            cases fails
            exact isFault
          · cases fails
        exact ⟨head, isFirst_cons.mpr (.inl ⟨⟨fault, invalid⟩, rfl⟩), invalid⟩
      · rename_i given gives
        have valid : ¬ InvalidCodeId environment head := by
          rw [invalidCodeId_iff, gives]
          exact nofun
        obtain ⟨name, first, invalid⟩ := inductionHypothesis overlaid
        exact ⟨name, isFirst_cons.mpr (.inr ⟨valid, first⟩), invalid⟩

/-- A seed without fields is not laid over what is known, where it would change nothing. -/
private theorem seed_overlayGiven
    (seeds : Seeds)
    (resource : String)
    (given : Seed)
    (name : String) :
    (overlayGiven seeds resource given).seed name =
      if name = resource then given.normal.laidOver (seeds.seed resource)
      else seeds.seed name := by
  rcases given with ⟨_ | address, _ | codeId⟩
  case none.none =>
    show seeds.seed name = if name = resource then Seed.unknown.laidOver _ else seeds.seed name
    rw [Seed.unknown_laidOver]
    split_ifs with same
    · rw [same]
    · rfl
  all_goals exact Seeds.seed_overlay _

/-- Once the seeds of the environment are laid over known ones, what the environment
gives for a name comes before what was known. -/
theorem seed_overlayEnvironment
    (overlaid : overlayEnvironment environment names seeds = .ok later)
    (name : String) :
    later.seed name =
      if name ∈ names then
        (givenSeed environment name).normal.laidOver (seeds.seed name)
      else
        seeds.seed name := by
  induction names generalizing seeds with
  | nil =>
      cases overlaid
      simp
  | cons first rest inductionHypothesis =>
      rw [overlayEnvironment] at overlaid
      split at overlaid
      · cases overlaid
      · rename_i given gives
        rw [inductionHypothesis overlaid, seed_overlayGiven]
        by_cases same : name = first
        · subst same
          rw [if_pos rfl, if_pos List.mem_cons_self, givenSeed_of_ok gives,
            Seed.laidOver_laidOver, ite_self]
        · simp [same]

end Rollout.Cdp
