import Rollout.Proofs.Configuration.Trace
import Rollout.Proofs.Lookup

/-!
Contract: lists of changes against answers that depend on the call alone.

Owns:
- what a change comes to by the answers to its own calls;
- that the artifacts registered before make no difference to this, since their code ids
  are those that another registration would give;
- that each change of a list has the result that it has alone, so that whoever chooses
  among the changes chooses among the results.

Does not own: the calls of a list. Which artifacts are registered for a change does
depend on the changes before it.
-/

namespace Rollout.Configuration

/-! ## One change -/

section Outcome

variable (scope : Scope) (answers : (call : Call) → call.Answer)

/-- What a change comes to if its artifact is registered for it alone. -/
def outcomeOf (change : Change) : Except ChangeCause (String × Json) :=
  match prepare scope change with
  | .error cause => .error cause
  | .ok preparation =>
      match change.kind with
      | .execute _ =>
          settled .execute preparation
            (answers (.execute preparation.address preparation.payload preparation.funds))
      | .migrate artifact =>
          match answers (.registerArtifact artifact) with
          | .error fault => .error (.backend .registerArtifact fault)
          | .ok codeId =>
              settled .migrate preparation
                (answers (.migrate preparation.address codeId preparation.payload))

/-- What a change comes to as the result at a place. -/
def resultAt (index : Nat) (change : Change) : Except ChangeFault ChangeOutcome :=
  result index change.target (outcomeOf scope answers change)

end Outcome

variable {scope : Scope} {answers : (call : Call) → call.Answer} {change : Change}
  {known : String → Option CodeId} {earlier rounds : List CallRound}
  {outcome : Except ChangeCause (String × Json)}

/-- The calls have the answers that they always have. -/
def Answered (answers : (call : Call) → call.Answer) (rounds : List CallRound) : Prop :=
  ∀ round ∈ rounds, round.answer = answers round.question

private theorem answered_append {first second : List CallRound} :
    Answered answers (first ++ second) ↔ Answered answers first ∧ Answered answers second :=
  List.forall_mem_append

private theorem answered_rounds {α : Type} (exchange : Exchange α) :
    Answered answers (exchange.rounds (Backend.ofAnswers answers) ()) :=
  fun _ member => Dialogue.answer_of_mem_rounds member

/-- The code id of an artifact is the one that registering it gives, at any time. -/
theorem Answered.registration_eq
    {artifact : String}
    {codeId : CodeId}
    (answered : Answered answers rounds)
    (registered : codeIn? rounds artifact = some codeId) :
    answers (.registerArtifact artifact) = .ok codeId := by
  have member : (artifact, codeId) ∈ registrations rounds := mem_of_lookup registered
  rcases List.mem_filterMap.mp member with ⟨round, inRounds, isRegistration⟩
  have answer := answered round inRounds
  unfold registered? at isRegistration
  split at isRegistration
  · cases isRegistration
    exact answer.symm
  · cases isRegistration

/-- The code ids that are at hand make no difference to what a change comes to. -/
theorem Made.outcome_eq
    (made : Made scope known change rounds outcome)
    (answered : Answered answers rounds)
    (faithful : ∀ artifact codeId, known artifact = some codeId →
      answers (.registerArtifact artifact) = .ok codeId) :
    outcome = outcomeOf scope answers change := by
  unfold outcomeOf
  cases made with
  | unprepared unprepared =>
      simp only [prepare_eq_error_iff.mpr unprepared]
  | @executed preparation _ kind prepared answer =>
      simp only [prepare_eq_ok_iff.mpr prepared, kind]
      apply congrArg
      exact answered (execution preparation answer) List.mem_cons_self
  | @migrated preparation _ codeId kind prepared isKnown answer =>
      simp only [prepare_eq_ok_iff.mpr prepared, kind, faithful _ _ isKnown]
      apply congrArg
      exact answered (migration preparation codeId answer) List.mem_cons_self
  | @registered preparation artifact kind prepared unknown codeId answer =>
      have registering : Except.ok codeId = answers (.registerArtifact artifact) :=
        answered _ List.mem_cons_self
      simp only [prepare_eq_ok_iff.mpr prepared, kind, ← registering]
      apply congrArg
      exact answered (migration preparation codeId answer) (by simp)
  | @unregistered preparation artifact kind prepared unknown fault =>
      have registering : Except.error fault = answers (.registerArtifact artifact) :=
        answered _ List.mem_cons_self
      simp only [prepare_eq_ok_iff.mpr prepared, kind, ← registering]

/-! ## Lists of changes -/

private theorem Applied.results_eq
    {index : Nat}
    {changes : List Change}
    {results : List (Except ChangeFault ChangeOutcome)}
    (applied : Applied scope earlier index changes rounds results)
    (answered : Answered answers (earlier ++ rounds)) :
    results = changes.mapIdx fun place change => resultAt scope answers (index + place) change := by
  induction applied with
  | done earlier index => rfl
  | @next earlier rounds later index change rest outcome results made others
      inductionHypothesis =>
      rw [← List.append_assoc] at answered
      have answeredNow := answered_append.mp (answered_append.mp answered).1
      have sameOutcome : outcome = outcomeOf scope answers change :=
        made.outcome_eq answeredNow.2 fun _ _ known => answeredNow.1.registration_eq known
      rw [List.mapIdx_cons, inductionHypothesis answered, sameOutcome]
      simp only [resultAt, Nat.add_zero, Nat.add_assoc, Nat.add_comm 1]

/-- A list of changes has the result of each, in its place. -/
theorem applyChanges_value (scope : Scope) (changes : List Change) :
    ((applyChanges scope changes).play (Backend.ofAnswers answers) ()).value =
      changes.mapIdx (resultAt scope answers) := by
  have applied := applied_applyChanges scope changes (Backend.ofAnswers answers) ()
  have results := applied.results_eq (answered_rounds (applyChanges scope changes))
  simpa only [Nat.zero_add] using results

/-! ## Choosing among changes -/

/-- A result as that of a change at another place. -/
def moved (index : Nat) : Except ChangeFault ChangeOutcome → Except ChangeFault ChangeOutcome
  | .ok outcome => .ok { outcome with index := index }
  | .error fault => .error { fault with index := index }

/-- The items at some places, in the order of the places. A place may be left out or be
named several times. -/
def chosen {α : Type} (places : List Nat) (items : List α) : List α :=
  places.filterMap fun place => items[place]?

private theorem map_chosen {α β : Type} (f : α → β) (places : List Nat) (items : List α) :
    (chosen places items).map f = chosen places (items.map f) := by
  unfold chosen
  rw [List.map_filterMap]
  exact List.filterMap_congr fun place _ => (List.getElem?_map ..).symm

private theorem moved_resultAt (index other : Nat) (change : Change) :
    moved index (resultAt scope answers other change) = resultAt scope answers index change := by
  unfold resultAt
  cases outcomeOf scope answers change <;> rfl

private theorem map_moved_applyChanges_value (changes : List Change) :
    ((applyChanges scope changes).play (Backend.ofAnswers answers) ()).value.map (moved 0) =
      changes.map (resultAt scope answers 0) := by
  rw [applyChanges_value]
  apply List.ext_getElem?
  intro place
  simp only [List.getElem?_map, List.getElem?_mapIdx, Option.map_map, Function.comp_def,
    moved_resultAt]

/-- Against answers that depend on the call alone, each change of a list has the result
that it has alone, but for its place. So if changes are rearranged, left out or repeated,
then the results are rearranged, left out or repeated in the same way. -/
theorem results_independent (scope : Scope) (answers : (call : Call) → call.Answer) :
    let results := fun changes =>
      ((applyChanges scope changes).play (Backend.ofAnswers answers) ()).value
    ∃ alone : Change → Except ChangeFault ChangeOutcome,
      (∀ change, results [change] = [alone change]) ∧
        (∀ changes, results changes =
          changes.mapIdx fun index change => moved index (alone change)) ∧
        ∀ changes places,
          (results (chosen places changes)).map (moved 0) =
            chosen places ((results changes).map (moved 0)) := by
  intro results
  refine ⟨resultAt scope answers 0, ?_, ?_, ?_⟩
  · exact fun change => applyChanges_value scope [change]
  · intro changes
    simp only [moved_resultAt]
    exact applyChanges_value scope changes
  · intro changes places
    rw [map_moved_applyChanges_value, map_moved_applyChanges_value, map_chosen]

end Rollout.Configuration
