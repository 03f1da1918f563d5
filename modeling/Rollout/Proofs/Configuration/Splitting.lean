import Rollout.Backend.Simulated
import Rollout.Proofs.Configuration.Trace

/-!
Contract: a list of changes that is applied in two parts.

Owns:
- the artifacts that changes migrate to, and results some places further on;
- that the artifacts registered before only matter to changes that migrate to them;
- that two parts which migrate to no common artifact can be applied one after the other:
  the calls are the same as for the whole list, and the results but for their places.

Does not own: parts with a common artifact, which is registered once for the whole list
and once for each part.
-/

namespace Rollout

def Change.artifact? (change : Change) : Option String :=
  match change.kind with
  | .execute _ => none
  | .migrate artifact => some artifact

namespace Configuration

open Dialogue (Path)

def migratedTo (changes : List Change) : List String :=
  changes.filterMap Change.artifact?

/-- A result as that of a change some places further on. -/
def shifted (places : Nat) : Except ChangeFault ChangeOutcome → Except ChangeFault ChangeOutcome
  | .ok outcome => .ok { outcome with index := outcome.index + places }
  | .error fault => .error { fault with index := fault.index + places }

variable {scope : Scope} {change : Change} {registered base after : Registered}
  {changes first second : List Change} {index : Nat}

private theorem forall_mem_migratedTo_cons {holds : String → Prop} :
    (∀ artifact ∈ migratedTo (change :: changes), holds artifact) ↔
      (∀ artifact, change.artifact? = some artifact → holds artifact) ∧
        ∀ artifact ∈ migratedTo changes, holds artifact := by
  unfold migratedTo
  cases own : change.artifact? <;> simp [own]

/-! ## Registered artifacts -/

private theorem migrate_append_registered
    (preparation : Preparation)
    (registered base : Registered)
    (codeId : CodeId) :
    migrate preparation (registered ++ base) codeId =
      (migrate preparation registered codeId).bind fun (made, after) =>
        .done (made, after ++ base) := by
  unfold migrate
  rw [Dialogue.ask_bind]
  refine congrArg (Dialogue.ask _) (funext fun answer => ?_)
  cases answer <;> rfl

/-- Artifacts that are registered besides make no difference to a change that migrates to
none of them. -/
theorem change_append_registered
    (fresh : ∀ artifact, change.artifact? = some artifact → base.lookup artifact = none) :
    Configuration.change scope (registered ++ base) change =
      (Configuration.change scope registered change).bind fun (made, after) =>
        .done (made, after ++ base) := by
  unfold Configuration.change
  split
  · rfl
  · rename_i preparation _
    split
    · rw [Dialogue.ask_bind]
      refine congrArg (Dialogue.ask _) (funext fun answer => ?_)
      cases answer <;> rfl
    · rename_i artifact kind
      have notInBase : base.lookup artifact = none :=
        fresh artifact (by rw [Change.artifact?, kind])
      have sameLookup : (registered ++ base).lookup artifact = registered.lookup artifact := by
        rw [List.lookup_append, notInBase]
        exact Option.or_none
      rw [sameLookup]
      split
      · exact migrate_append_registered preparation registered base _
      · rw [Dialogue.ask_bind]
        refine congrArg (Dialogue.ask _) (funext fun answer => ?_)
        cases answer with
        | error fault => rfl
        | ok codeId =>
            exact migrate_append_registered preparation ((artifact, codeId) :: registered)
              base codeId

/-- The same holds of a list of changes. -/
private theorem applyFrom_append_registered
    (fresh : ∀ artifact ∈ migratedTo changes, base.lookup artifact = none)
    (index : Nat)
    (registered : Registered) :
    applyFrom scope index (registered ++ base) changes =
      applyFrom scope index registered changes := by
  induction changes generalizing index registered with
  | nil => rfl
  | cons change rest inductionHypothesis =>
      obtain ⟨freshNow, freshLater⟩ := forall_mem_migratedTo_cons.mp fresh
      simp only [applyFrom, change_append_registered freshNow, Dialogue.bind_assoc,
        Dialogue.done_bind, inductionHypothesis freshLater]

/-- A change registers no other artifact than its own. -/
private theorem lookup_of_path_change
    {rounds : List CallRound}
    {made : Except ChangeCause (String × Json)}
    {artifact : String}
    (path : Path (Configuration.change scope registered change) rounds (made, after))
    (other : change.artifact? ≠ some artifact) :
    after.lookup artifact = registered.lookup artifact := by
  unfold Configuration.change at path
  split at path
  · obtain ⟨_, same⟩ := Dialogue.path_done_iff.mp path
    cases same
    rfl
  · rename_i preparation _
    split at path
    · obtain ⟨answer, later, _, rest⟩ := Dialogue.path_ask_iff.mp path
      cases answer with
      | error fault =>
          obtain ⟨_, same⟩ := Dialogue.path_done_iff.mp rest
          cases same
          rfl
      | ok response =>
          obtain ⟨_, same⟩ := Dialogue.path_done_iff.mp rest
          cases same
          rfl
    · rename_i own kind
      have different : artifact ≠ own := by
        rintro rfl
        exact other (by rw [Change.artifact?, kind])
      split at path
      · obtain ⟨_, _, _, rfl⟩ := exists_answer_of_path_migrate path
        rfl
      · obtain ⟨answer, later, _, rest⟩ := Dialogue.path_ask_iff.mp path
        cases answer with
        | error fault =>
            obtain ⟨_, same⟩ := Dialogue.path_done_iff.mp rest
            cases same
            rfl
        | ok codeId =>
            obtain ⟨_, _, _, rfl⟩ := exists_answer_of_path_migrate rest
            rw [List.lookup_cons, beq_false_of_ne different]

/-! ## Places -/

/-- From a place further on, the same is called, and the results are further on. -/
private theorem applyFrom_shifted (places : Nat) :
    applyFrom scope (index + places) registered changes =
      (applyFrom scope index registered changes).bind fun results =>
        .done (results.map (shifted places)) := by
  induction changes generalizing index registered with
  | nil => rfl
  | cons change rest inductionHypothesis =>
      have sameResult (made : Except ChangeCause (String × Json)) :
          result (index + places) change.target made =
            shifted places (result index change.target made) := by
        cases made <;> rfl
      simp only [applyFrom, Nat.add_right_comm index places 1, inductionHypothesis, sameResult,
        Dialogue.bind_assoc, Dialogue.done_bind, List.map_cons]

/-! ## Two parts -/

private theorem applyFrom_append
    (apart : ∀ artifact ∈ migratedTo first, artifact ∉ migratedTo second)
    (fresh : ∀ artifact ∈ migratedTo second, registered.lookup artifact = none) :
    applyFrom scope index registered (first ++ second) =
      (applyFrom scope index registered first).bind fun results =>
        (applyFrom scope (index + first.length) [] second).bind fun others =>
          .done (results ++ others) := by
  induction first generalizing index registered with
  | nil =>
      have sameAsNew : applyFrom scope index registered second =
          applyFrom scope index [] second :=
        applyFrom_append_registered fresh index []
      simp only [List.nil_append, applyFrom, Dialogue.done_bind, List.length_nil, Nat.add_zero,
        Dialogue.bind_done, sameAsNew]
  | cons change rest inductionHypothesis =>
      obtain ⟨apartNow, apartLater⟩ := forall_mem_migratedTo_cons.mp apart
      simp only [List.cons_append, applyFrom, Dialogue.bind_assoc, Dialogue.done_bind,
        List.length_cons, ← Nat.add_assoc, Nat.add_right_comm index _ 1]
      refine Dialogue.bind_congr_of_path fun rounds (made, after) path => ?_
      have stillFresh : ∀ artifact ∈ migratedTo second, after.lookup artifact = none := by
        intro artifact member
        rw [lookup_of_path_change path fun own => apartNow artifact own member]
        exact fresh artifact member
      simp only [inductionHypothesis apartLater stillFresh, Dialogue.bind_assoc,
        Dialogue.done_bind]

/-- To apply parts that migrate to no common artifact together is to apply them one after
the other. -/
theorem applyChanges_append_eq
    (apart : ∀ artifact ∈ migratedTo first, artifact ∉ migratedTo second) :
    applyChanges scope (first ++ second) =
      (applyChanges scope first).bind fun results =>
        (applyChanges scope second).bind fun others =>
          .done (results ++ others.map (shifted first.length)) := by
  unfold applyChanges
  rw [applyFrom_append apart fun _ _ => rfl]
  simp only [applyFrom_shifted, Dialogue.bind_assoc, Dialogue.done_bind]

/-- Parts that migrate to no common artifact can be applied one after the other, whatever the
backend keeps between calls and whatever it refuses: the same calls get the same answers, the
backend ends the same, and the results of the second part are only further on. -/
theorem applyChanges_in_two_parts
    {σ : Type}
    (scope : Scope)
    (first second : List Change)
    (apart : ∀ artifact ∈ migratedTo first, artifact ∉ migratedTo second)
    (backend : Backend σ)
    (state : σ) :
    let whole := (applyChanges scope (first ++ second)).play backend state
    let former := (applyChanges scope first).play backend state
    let latter := (applyChanges scope second).play backend former.state
    whole.questions = former.questions ++ latter.questions ∧
      whole.state = latter.state ∧
      whole.value = former.value ++ latter.value.map (shifted first.length) ∧
      (applyChanges scope (first ++ second)).rounds backend state =
        (applyChanges scope first).rounds backend state ++
          (applyChanges scope second).rounds backend former.state := by
  intro whole former latter
  have inSequence : whole = ⟨former.value ++ latter.value.map (shifted first.length),
      former.questions ++ latter.questions, latter.state⟩ := by
    show (applyChanges scope (first ++ second)).play backend state = _
    simp only [applyChanges_append_eq apart, Dialogue.play_bind, Dialogue.play_done,
      List.append_nil]
    rfl
  refine ⟨by rw [inSequence], by rw [inSequence], by rw [inSequence], ?_⟩
  simp only [applyChanges_append_eq apart, Dialogue.rounds_bind, Dialogue.rounds,
    List.append_nil]
  rfl

/-- The first part registers code once for two migrations, one of which is refused; the second
part migrates what the first part migrated to other code, and lacks a contract. -/
theorem applyChanges_in_two_parts_of_pool_and_hub :
    let pool : Entry := ⟨"pool", some 1, "sei1pool", true⟩
    let hub : Entry := ⟨"hub", none, "sei1hub", false⟩
    let scope : Scope := ⟨⟨[pool, hub]⟩, []⟩
    let first : List Change :=
      [.migrate "pool" "artifacts/pool.wasm" .null, .migrate "hub" "artifacts/pool.wasm" .null]
    let second : List Change :=
      [.execute "gov" .null, .migrate "pool" "artifacts/hub.wasm" .null]
    let chain : SimulatedChain := ⟨["artifacts/old.wasm"], [("sei1pool", 1)]⟩
    let whole := (applyChanges scope (first ++ second)).play SimulatedChain.respond chain
    let former := (applyChanges scope first).play SimulatedChain.respond chain
    let latter := (applyChanges scope second).play SimulatedChain.respond former.state
    (∀ artifact ∈ migratedTo first, artifact ∉ migratedTo second) ∧
      former.questions.length = 3 ∧ latter.questions.length = 2 ∧
      whole.questions = former.questions ++ latter.questions ∧
      whole.state = latter.state ∧
      whole.value = former.value ++ latter.value.map (shifted 2) := by
  intro pool hub scope first second chain whole former latter
  have apart : ∀ artifact ∈ migratedTo first, artifact ∉ migratedTo second := by decide
  obtain ⟨sameCalls, sameState, sameResults, _⟩ :=
    applyChanges_in_two_parts scope first second apart SimulatedChain.respond chain
  exact ⟨apart, by decide +kernel, by decide +kernel, sameCalls, sameState, sameResults⟩

/-- An artifact of both parts is registered once for the whole list, and once for each part. -/
example :
    let scope : Scope := ⟨⟨[⟨"pool", some 1, "sei1pool", true⟩]⟩, []⟩
    let part : List Change := [.migrate "pool" "artifacts/pool.wasm" .null]
    let chain : SimulatedChain := ⟨[], [("sei1pool", 1)]⟩
    let calls := fun changes =>
      ((applyChanges scope changes).play SimulatedChain.respond chain).questions.length
    calls (part ++ part) = 3 ∧ calls part + calls part = 4 := by
  decide +kernel

end Configuration

end Rollout
