import Rollout.Proofs.Configuration.Trace
import Rollout.Proofs.Template.Closure

/-!
Contract: which changes of a list are refused before anything is called.

Owns:
- the templates of a change within certain placeholders;
- that a change is refused for its funds alone if all its placeholders are known;
- that a list of changes has a refusal among its results exactly at the place of each
  change that cannot be prepared, whatever happens to the others.

Does not own: faults of the backend.
-/

namespace Rollout

variable {allowed : Placeholder → Prop} {scope : Scope} {change : Change} {cause : ChangeCause}

/-! ## Templates of a change -/

def ChangeKind.funds? : ChangeKind → Option String
  | .execute funds => funds
  | .migrate _ => none

private theorem ChangeKind.funds?_eq_some_iff {kind : ChangeKind} {funds : String} :
    kind.funds? = some funds ↔ kind = .execute (some funds) := by
  cases kind <;> simp [funds?]

namespace Change

/-- What is resolved of a change. The artifact of a migration is no template. -/
structure Templates where
  target : String
  payload : Json
  funds : Option String

def templates (change : Change) : Templates :=
  ⟨change.target, change.payload, change.kind.funds?⟩

/-- The templates of a change name only certain placeholders. -/
structure Templates.Within (allowed : Placeholder → Prop) (templates : Templates) : Prop where
  target : Template.TargetWithin allowed templates.target
  payload : templates.payload.Within allowed
  funds : ∀ funds ∈ templates.funds, Template.Within allowed funds

instance [DecidablePred allowed] : DecidablePred (Templates.Within allowed) := fun _ =>
  decidable_of_iff (_ ∧ _ ∧ _)
    ⟨fun parts => ⟨parts.1, parts.2.1, parts.2.2⟩,
      fun within => ⟨within.target, within.payload, within.funds⟩⟩

end Change

namespace Configuration

/-- If all that a change names is known, it can only be refused because its funds are no
coin list. -/
theorem prepare_eq_error_iff_of_within
    (knowsAll : scope.KnowsAll allowed)
    (within : change.templates.Within allowed) :
    prepare scope change = .error cause ↔
      ∃ funds resolved fault, change.kind.funds? = some funds ∧
        scope.resolveText funds = .ok resolved ∧ Coin.parseList resolved = .error fault ∧
        cause = .invalidFunds fault := by
  obtain ⟨address, targetResolves⟩ : ∃ address, scope.resolveTarget change.target = .ok address :=
    knowsAll.exists_resolveTarget within.target
  obtain ⟨payload, payloadResolves⟩ : ∃ payload, scope.resolve change.payload = .ok payload :=
    knowsAll.exists_resolve within.payload
  rw [prepare_eq_error_iff]
  constructor
  · intro unprepared
    cases unprepared with
    | target unresolved =>
        rw [targetResolves] at unresolved
        cases unresolved
    | payload _ unresolved =>
        rw [payloadResolves] at unresolved
        cases unresolved
    | funds _ _ unfunded =>
        generalize given : change.kind = kind at unfunded
        cases unfunded with
        | @unresolved funds fault unresolved =>
            have named := ChangeKind.funds?_eq_some_iff.mpr given
            obtain ⟨resolved, resolves⟩ := knowsAll.exists_resolveText (within.funds funds named)
            rw [resolves] at unresolved
            cases unresolved
        | unparsed resolves unparsed =>
            exact ⟨_, _, _, rfl, resolves, unparsed, rfl⟩
  · rintro ⟨funds, resolved, fault, given, resolves, unparsed, rfl⟩
    refine .funds targetResolves payloadResolves ?_
    rw [ChangeKind.funds?_eq_some_iff.mp given]
    exact .unparsed resolves unparsed

/-! ## Refusals among the results -/

/-- A change comes to a cause that is no fault of the backend exactly if it cannot be
prepared for that cause. -/
theorem Made.eq_error_iff
    {known : String → Option CodeId}
    {rounds : List CallRound}
    {outcome : Except ChangeCause (String × Json)}
    (made : Made scope known change rounds outcome)
    (refusal : ∀ operation fault, cause ≠ .backend operation fault) :
    outcome = .error cause ↔ prepare scope change = .error cause := by
  have settled_ne : ∀ operation preparation answer,
      settled operation preparation answer ≠ .error cause := by
    intro operation preparation answer same
    cases answer with
    | ok response => cases same
    | error fault => exact refusal operation fault (Except.error.inj same).symm
  have prepare_ne : ∀ preparation, Prepared scope change preparation →
      prepare scope change ≠ .error cause := by
    intro preparation prepared
    rw [prepare_eq_ok_iff.mpr prepared]
    exact nofun
  cases made with
  | unprepared unprepared =>
      rw [prepare_eq_error_iff.mpr unprepared, Except.error.injEq, Except.error.injEq]
  | executed _ prepared _ => exact iff_of_false (settled_ne _ _ _) (prepare_ne _ prepared)
  | migrated _ prepared _ _ => exact iff_of_false (settled_ne _ _ _) (prepare_ne _ prepared)
  | registered _ prepared _ _ _ => exact iff_of_false (settled_ne _ _ _) (prepare_ne _ prepared)
  | unregistered _ prepared _ fault =>
      refine iff_of_false (fun same => ?_) (prepare_ne _ prepared)
      exact refusal .registerArtifact fault (Except.error.inj same).symm

private theorem result_eq_error_iff
    {index place : Nat}
    {name target : String}
    {outcome : Except ChangeCause (String × Json)} :
    result place name outcome = .error ⟨index, target, cause⟩ ↔
      place = index ∧ name = target ∧ outcome = .error cause := by
  cases outcome <;> simp [result]

/-- However the backend answers, the refusals among the results are those of the changes
that cannot be prepared, each at its place. -/
theorem error_mem_applyChanges_iff
    {σ : Type}
    {changes : List Change}
    {backend : Backend σ}
    {state : σ}
    {index : Nat}
    {target : String}
    (refusal : ∀ operation fault, cause ≠ .backend operation fault) :
    .error ⟨index, target, cause⟩ ∈ ((applyChanges scope changes).play backend state).value ↔
      ∃ change, changes[index]? = some change ∧ change.target = target ∧
        prepare scope change = .error cause := by
  obtain ⟨parts, _, sameParts, sameResults, each⟩ :=
    (applied_applyChanges scope changes backend state).exists_parts
  have atPlace : ∀ place change, changes[place]? = some change →
      ∃ outcome, ((applyChanges scope changes).play backend state).value[place]? =
          some (result place change.target outcome) ∧
        (outcome = .error cause ↔ prepare scope change = .error cause) := by
    intro place change isChange
    have inParts : place < parts.length := sameParts ▸ (List.getElem?_eq_some_iff.mp isChange).1
    obtain ⟨outcome, isResult, made⟩ :=
      each place change parts[place] isChange (List.getElem?_eq_getElem inParts)
    rw [Nat.zero_add] at isResult
    exact ⟨outcome, isResult, made.eq_error_iff refusal⟩
  constructor
  · intro member
    obtain ⟨place, isRefusal⟩ := List.mem_iff_getElem?.mp member
    have inChanges : place < changes.length :=
      sameResults ▸ (List.getElem?_eq_some_iff.mp isRefusal).1
    have isChange := List.getElem?_eq_getElem inChanges
    obtain ⟨outcome, isResult, refused⟩ := atPlace place _ isChange
    rw [isResult] at isRefusal
    obtain ⟨rfl, sameTarget, failed⟩ := result_eq_error_iff.mp (Option.some.inj isRefusal)
    exact ⟨_, isChange, sameTarget, refused.mp failed⟩
  · rintro ⟨change, isChange, rfl, failed⟩
    obtain ⟨outcome, isResult, refused⟩ := atPlace index change isChange
    rw [result_eq_error_iff.mpr ⟨rfl, rfl, refused.mpr failed⟩] at isResult
    exact List.mem_of_getElem? isResult

end Configuration

end Rollout
