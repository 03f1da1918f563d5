import Rollout.Inquiry
import Rollout.Proofs.Provision.Trace
import Rollout.Proofs.Template.Closure

/-!
Contract: the calls of a list of inquiries, with their answers.

Owns:
- the calls that make one inquiry, and its result;
- that a list of inquiries makes each in its turn, whatever failed before;
- that an inquiry is sent if all that it names is known.

Does not own: which inquiries a deployment makes.
-/

namespace Rollout

/-- The target and the query of an inquiry name only certain placeholders. -/
structure Inquiry.Within (allowed : Placeholder → Prop) (inquiry : Inquiry) : Prop where
  target : Template.TargetWithin allowed inquiry.target
  query : inquiry.query.Within allowed

instance {allowed : Placeholder → Prop} [DecidablePred allowed] :
    DecidablePred (Inquiry.Within allowed) := fun _ =>
  decidable_of_iff (_ ∧ _)
    ⟨fun parts => ⟨parts.1, parts.2⟩, fun within => ⟨within.target, within.query⟩⟩

namespace Inquiry

open Dialogue (Path InTurn)

/-- The calls that make the inquiry at a place, with their answers, and its result. -/
inductive Made (scope : Scope) (index : Nat) (inquiry : Inquiry) :
    List CallRound → InquiryResult → Prop where
  /-- Nothing is asked if the inquiry cannot be resolved. -/
  | unprepared {fault : ResolveFault}
      (unprepared : inquiry.prepare scope = .error fault) :
      Made scope index inquiry [] ⟨index, inquiry.target, none, .error (.unresolved fault)⟩
  | asked {address : String} {query : Json}
      (prepared : inquiry.prepare scope = .ok (address, query))
      (answer : Except BackendFault Json) :
      Made scope index inquiry [⟨.query address query, answer⟩]
        ⟨index, inquiry.target, some query, answer.mapError .backend⟩

variable {allowed : Placeholder → Prop} {scope : Scope} {index : Nat} {inquiry : Inquiry}
  {inquiries : List Inquiry} {rounds : List CallRound} {result : InquiryResult}
  {results : List InquiryResult}

theorem made_of_path (path : Path (inquiry.make scope index) rounds result) :
    Made scope index inquiry rounds result := by
  unfold make at path
  split at path
  · rename_i fault failed
    obtain ⟨rfl, rfl⟩ := Dialogue.path_done_iff.mp path
    exact .unprepared failed
  · rename_i address query prepared
    obtain ⟨answer, later, rfl, rest⟩ := Dialogue.path_ask_iff.mp path
    cases answer with
    | ok response =>
        obtain ⟨rfl, rfl⟩ := Dialogue.path_done_iff.mp rest
        exact .asked prepared (.ok response)
    | error fault =>
        obtain ⟨rfl, rfl⟩ := Dialogue.path_done_iff.mp rest
        exact .asked prepared (.error fault)

/-- However a backend answers, the inquiries of a list are made in turn. -/
theorem inTurn_of_path (path : Path (makeFrom scope index inquiries) rounds results) :
    InTurn (inquiries.mapIdx fun place inquiry => inquiry.make scope (index + place))
      rounds results := by
  induction inquiries generalizing index rounds results with
  | nil =>
      obtain ⟨rfl, rfl⟩ := Dialogue.path_done_iff.mp path
      exact .done
  | cons first rest inductionHypothesis =>
      obtain ⟨ofFirst, result, others, rfl, pathFirst, pathOthers⟩ :=
        Dialogue.path_bind_iff.mp path
      obtain ⟨later, laterResults, none, rfl, pathRest, finished⟩ :=
        Dialogue.path_bind_iff.mp pathOthers
      obtain ⟨rfl, rfl⟩ := Dialogue.path_done_iff.mp finished
      have inTurn := inductionHypothesis pathRest
      rw [List.append_nil, List.mapIdx_cons]
      simp only [Nat.add_right_comm index 1, Nat.add_assoc] at inTurn
      exact .next pathFirst inTurn

/-- Every result of a list of inquiries is that of the inquiry at its place. -/
theorem exists_made_of_mem
    {σ : Type}
    {backend : Backend σ}
    {state : σ}
    (member : result ∈ ((makeInquiries scope inquiries).play backend state).value) :
    ∃ place inquiry part, inquiries[place]? = some inquiry ∧
      Made scope place inquiry part result := by
  have path := Dialogue.path_rounds backend (makeInquiries scope inquiries) state
  obtain ⟨dialogue, inList, part, partPath⟩ := (inTurn_of_path path).exists_path_of_mem member
  obtain ⟨place, inInquiries, rfl⟩ := List.mem_mapIdx.mp inList
  rw [Nat.zero_add] at partPath
  exact ⟨place, _, part, List.getElem?_eq_getElem inInquiries, made_of_path partPath⟩

/-! ## Known placeholders -/

theorem exists_prepare_of_within
    (knowsAll : scope.KnowsAll allowed)
    (within : inquiry.Within allowed) :
    ∃ sent, inquiry.prepare scope = .ok sent := by
  obtain ⟨address, targetResolves⟩ := knowsAll.exists_resolveTarget within.target
  obtain ⟨query, queryResolves⟩ := knowsAll.exists_resolve within.query
  exact ⟨(address, query), by simp only [prepare, targetResolves, queryResolves]⟩

/-- If all that an inquiry names is known, it does not fail before it is sent. -/
theorem Made.outcome_ne_unresolved
    (made : Made scope index inquiry rounds result)
    (knowsAll : scope.KnowsAll allowed)
    (within : inquiry.Within allowed)
    (fault : ResolveFault) :
    result.outcome ≠ .error (.unresolved fault) := by
  cases made with
  | unprepared unprepared =>
      obtain ⟨sent, prepared⟩ := exists_prepare_of_within knowsAll within
      rw [unprepared] at prepared
      cases prepared
  | asked prepared answer =>
      cases answer <;> simp [Except.mapError]

end Inquiry

end Rollout
