import Rollout.Proofs.Inquiry.Trace

/-!
Contract: how the calls and the results of a list of inquiries line up.

Owns:
- the query that an inquiry sends, and the fault of one that sends none;
- that a list of inquiries sends the query of each that has one, in order, and nothing
  else, however the backend answers;
- that the result of each tells what was sent for it and what came back.

Does not own: which targets and queries resolve.
-/

namespace Rollout.Inquiry

variable {scope : Scope} {inquiry : Inquiry} {fault : ResolveFault} {index : Nat}
  {address : String} {query : Json} {part : List CallRound} {result : InquiryResult}

/-! ## What is sent -/

/-- The query that an inquiry sends, if its target and its query both resolve. -/
def sent? (scope : Scope) (inquiry : Inquiry) : Option Call :=
  match scope.resolveTarget inquiry.target, scope.resolve inquiry.query with
  | .ok address, .ok query => some (.query address query)
  | _, _ => none

/-- An inquiry sends nothing for a fault of its target or, if the target resolves, for one
of its query. -/
def FailsFor (scope : Scope) (inquiry : Inquiry) (fault : ResolveFault) : Prop :=
  scope.resolveTarget inquiry.target = .error fault ∨
    ∃ address, scope.resolveTarget inquiry.target = .ok address ∧
      scope.resolve inquiry.query = .error fault

private theorem prepare_eq_ok_iff :
    inquiry.prepare scope = .ok (address, query) ↔
      scope.resolveTarget inquiry.target = .ok address ∧
        scope.resolve inquiry.query = .ok query := by
  unfold prepare
  cases scope.resolveTarget inquiry.target with
  | error other => simp
  | ok resolved => cases scope.resolve inquiry.query <;> simp

private theorem prepare_eq_error_iff :
    inquiry.prepare scope = .error fault ↔ inquiry.FailsFor scope fault := by
  unfold prepare FailsFor
  cases scope.resolveTarget inquiry.target with
  | error other => simp
  | ok resolved => cases scope.resolve inquiry.query <;> simp

private theorem sent?_of_prepare_ok (prepared : inquiry.prepare scope = .ok (address, query)) :
    inquiry.sent? scope = some (.query address query) := by
  obtain ⟨target, message⟩ := prepare_eq_ok_iff.mp prepared
  simp only [sent?, target, message]

private theorem sent?_of_prepare_error (failed : inquiry.prepare scope = .error fault) :
    inquiry.sent? scope = none := by
  rcases prepare_eq_error_iff.mp failed with target | ⟨address, target, message⟩
  · simp only [sent?, target]
  · simp only [sent?, target, message]

/-! ## One inquiry -/

private theorem Made.questions_eq (made : Made scope index inquiry part result) :
    part.map Dialogue.Round.question = (inquiry.sent? scope).toList := by
  cases made with
  | unprepared failed =>
      rw [sent?_of_prepare_error failed]
      rfl
  | asked prepared answer =>
      rw [sent?_of_prepare_ok prepared]
      rfl

/-- An inquiry that resolves is sent, and its result is the answer. -/
theorem Made.of_resolves
    (made : Made scope index inquiry part result)
    (target : scope.resolveTarget inquiry.target = .ok address)
    (message : scope.resolve inquiry.query = .ok query) :
    ∃ answer : Except BackendFault Json, part = [⟨.query address query, answer⟩] ∧
      result.query = some query ∧ result.outcome = answer.mapError .backend := by
  have resolved := prepare_eq_ok_iff.mpr ⟨target, message⟩
  cases made with
  | unprepared failed =>
      rw [resolved] at failed
      cases failed
  | asked prepared answer =>
      rw [resolved] at prepared
      cases prepared
      exact ⟨answer, rfl, rfl, rfl⟩

/-- An inquiry that fails for a fault is not sent, and its result is this fault. -/
theorem Made.of_failsFor
    (made : Made scope index inquiry part result)
    (fails : inquiry.FailsFor scope fault) :
    part = [] ∧ result.query = none ∧ result.outcome = .error (.unresolved fault) := by
  have failed := prepare_eq_error_iff.mpr fails
  cases made with
  | unprepared unprepared =>
      rw [failed] at unprepared
      cases unprepared
      exact ⟨rfl, rfl, rfl⟩
  | asked prepared answer =>
      rw [failed] at prepared
      cases prepared

/-- A result lacks the query exactly if nothing was sent, and exactly if it tells that the
inquiry did not resolve. No answer of a backend passes for that. -/
theorem Made.query_eq_none_iff (made : Made scope index inquiry part result) :
    (result.query = none ↔ part = []) ∧
      (result.query = none ↔ ∃ fault, result.outcome = .error (.unresolved fault)) := by
  cases made with
  | unprepared failed => simp
  | asked prepared answer => cases answer <;> simp [Except.mapError]

private theorem Made.index_eq (made : Made scope index inquiry part result) :
    result.index = index ∧ result.target = inquiry.target := by
  cases made <;> exact ⟨rfl, rfl⟩

/-! ## Lists of inquiries -/

section

variable {σ : Type} (scope : Scope) (backend : Backend σ) (state : σ)

private theorem questions_make (index : Nat) (inquiry : Inquiry) :
    ((inquiry.make scope index).play backend state).questions =
      (inquiry.sent? scope).toList := by
  rw [← Dialogue.rounds_questions]
  exact (made_of_path (Dialogue.path_rounds backend _ state)).questions_eq

/-- The queries of a list are those of its inquiries in order, whatever was answered to the
ones before. -/
private theorem questions_makeFrom (index : Nat) (inquiries : List Inquiry) :
    ((makeFrom scope index inquiries).play backend state).questions =
      inquiries.filterMap (sent? scope) := by
  induction inquiries generalizing index state with
  | nil => rfl
  | cons first rest inductionHypothesis =>
      rw [makeFrom, Dialogue.play_bind]
      simp only [Dialogue.play_bind, Dialogue.play_done, List.append_nil, questions_make,
        inductionHypothesis]
      cases sent : first.sent? scope <;> simp [sent]

/-- The rounds of a list come in parts, and each part makes the inquiry at its place. -/
theorem exists_parts (inquiries : List Inquiry) :
    ∃ parts : List (List CallRound),
      (makeInquiries scope inquiries).rounds backend state = parts.flatten ∧
        parts.length = inquiries.length ∧
        ((makeInquiries scope inquiries).play backend state).value.length = inquiries.length ∧
        ∀ (place : Nat) (inquiry : Inquiry) (part : List CallRound),
          inquiries[place]? = some inquiry → parts[place]? = some part →
            ∃ result,
              ((makeInquiries scope inquiries).play backend state).value[place]? = some result ∧
                Made scope place inquiry part result := by
  have path := Dialogue.path_rounds backend (makeInquiries scope inquiries) state
  obtain ⟨parts, isFlat, sameParts, sameResults, each⟩ := (inTurn_of_path path).exists_parts
  rw [List.length_mapIdx] at sameParts sameResults
  refine ⟨parts, isFlat, sameParts, sameResults, ?_⟩
  intro place inquiry part isInquiry isPart
  have isDialogue : (inquiries.mapIdx fun place inquiry =>
      inquiry.make scope (0 + place))[place]? = some (inquiry.make scope (0 + place)) := by
    rw [List.getElem?_mapIdx, isInquiry]
    rfl
  obtain ⟨result, isResult, partPath⟩ := each place _ part isDialogue isPart
  rw [Nat.zero_add] at partPath
  exact ⟨result, isResult, made_of_path partPath⟩

/-- However the backend answers, a list of inquiries sends the query of each inquiry whose
target and query both resolve, in order, and makes no other call. The calls come in parts,
one for each inquiry, and there is one result for each, in its place and for its target.
An inquiry that resolves is sent once, and its result has the query that was sent and what
the backend answered. The result of any other one has no query, and the fault of the target
or, if the target resolves, of the query. -/
theorem makeInquiries_aligned (inquiries : List Inquiry) :
    let run := (makeInquiries scope inquiries).play backend state
    let rounds := (makeInquiries scope inquiries).rounds backend state
    run.questions = rounds.map Dialogue.Round.question ∧
      run.questions = inquiries.filterMap (sent? scope) ∧
      (∀ call ∈ run.questions, call.operation = .query) ∧
      run.value.length = inquiries.length ∧
      ∃ parts : List (List CallRound),
        rounds = parts.flatten ∧ parts.length = inquiries.length ∧
          ∀ (place : Nat) (inquiry : Inquiry) (part : List CallRound),
            inquiries[place]? = some inquiry → parts[place]? = some part →
              ∃ result, run.value[place]? = some result ∧
                result.index = place ∧ result.target = inquiry.target ∧
                (∀ address query, scope.resolveTarget inquiry.target = .ok address →
                  scope.resolve inquiry.query = .ok query →
                    ∃ answer : Except BackendFault Json,
                      part = [⟨.query address query, answer⟩] ∧
                        result.query = some query ∧
                        result.outcome = answer.mapError .backend) ∧
                (∀ fault, inquiry.FailsFor scope fault →
                  part = [] ∧ result.query = none ∧
                    result.outcome = .error (.unresolved fault)) ∧
                (result.query = none ↔ part = []) ∧
                (result.query = none ↔
                  ∃ fault, result.outcome = .error (.unresolved fault)) := by
  intro run rounds
  have sent : run.questions = inquiries.filterMap (sent? scope) :=
    questions_makeFrom scope backend state 0 inquiries
  obtain ⟨parts, isFlat, sameParts, sameResults, each⟩ :=
    exists_parts scope backend state inquiries
  refine ⟨(Dialogue.rounds_questions backend (makeInquiries scope inquiries) state).symm, sent,
    ?readOnly, sameResults, parts, isFlat, sameParts, ?aligned⟩
  case readOnly =>
    intro call member
    rw [sent] at member
    obtain ⟨inquiry, _, isSent⟩ := List.mem_filterMap.mp member
    unfold sent? at isSent
    split at isSent
    · cases isSent
      rfl
    · cases isSent
  case aligned =>
    intro place inquiry part isInquiry isPart
    obtain ⟨result, isResult, made⟩ := each place inquiry part isInquiry isPart
    obtain ⟨sameIndex, sameTarget⟩ := made.index_eq
    obtain ⟨nothingSent, unresolved⟩ := made.query_eq_none_iff
    exact ⟨result, isResult, sameIndex, sameTarget, fun _ _ => made.of_resolves,
      fun _ => made.of_failsFor, nothingSent, unresolved⟩

end

end Rollout.Inquiry
