import Rollout.Proofs.Configuration.Preparation
import Rollout.Proofs.Provision.Trace

/-!
Contract: the calls of a list of changes, with their answers.

Owns:
- the registrations that succeeded among some calls, and the code id of an artifact
  that they give;
- the calls that make one change, after those of the changes before it;
- that a list of changes makes the calls of each in order, whatever failed before, and
  has one result for each.

Does not own: which changes a deployment makes.
-/

namespace Rollout.Configuration

open Dialogue (Path)

/-! ## Registrations -/

def registered? : CallRound → Option (String × CodeId)
  | ⟨.registerArtifact artifact, .ok codeId⟩ => some (artifact, codeId)
  | _ => none

def registrations (rounds : List CallRound) : List (String × CodeId) :=
  rounds.filterMap registered?

/-- The code id that the first registration of an artifact gave. -/
def codeIn? (rounds : List CallRound) (artifact : String) : Option CodeId :=
  (registrations rounds).lookup artifact

def artifactsIn (rounds : List CallRound) : List String :=
  (registrations rounds).map Prod.fst

@[simp] theorem registrations_append (first second : List CallRound) :
    registrations (first ++ second) = registrations first ++ registrations second :=
  List.filterMap_append

private theorem codeIn?_append (first second : List CallRound) (artifact : String) :
    codeIn? (first ++ second) artifact =
      (codeIn? first artifact).or (codeIn? second artifact) := by
  rw [codeIn?, registrations_append, List.lookup_append]
  rfl

private theorem codeIn?_eq_none_iff {rounds : List CallRound} {artifact : String} :
    codeIn? rounds artifact = none ↔ artifact ∉ artifactsIn rounds := by
  unfold codeIn? artifactsIn
  rw [List.lookup_eq_none_iff, List.mem_map]
  constructor
  · rintro others ⟨⟨other, codeId⟩, member, rfl⟩
    exact absurd (others _ member) (by simp)
  · intro fresh member isMember
    have different : artifact ≠ member.1 := fun same => fresh ⟨member, isMember, same.symm⟩
    simpa using different

/-! ## One change -/

def execution (preparation : Preparation) (answer : Except BackendFault Json) : CallRound :=
  ⟨.execute preparation.address preparation.payload preparation.funds, answer⟩

def migration
    (preparation : Preparation)
    (codeId : CodeId)
    (answer : Except BackendFault Json) :
    CallRound :=
  ⟨.migrate preparation.address codeId preparation.payload, answer⟩

/-- What a change comes to by the answer to its last call. -/
def settled
    (operation : Operation)
    (preparation : Preparation) :
    Except BackendFault Json → Except ChangeCause (String × Json)
  | .ok response => .ok (preparation.address, response)
  | .error fault => .error (.backend operation fault)

/-- The calls that make a change, with their answers, and what it comes to. Some artifacts
have a code id already. -/
inductive Made (scope : Scope) (known : String → Option CodeId) (change : Change) :
    List CallRound → Except ChangeCause (String × Json) → Prop where
  /-- Nothing is called for a change that cannot be prepared. -/
  | unprepared {cause : ChangeCause}
      (unprepared : Unprepared scope change cause) :
      Made scope known change [] (.error cause)
  | executed {preparation : Preparation} {funds : Option String}
      (kind : change.kind = .execute funds)
      (prepared : Prepared scope change preparation)
      (answer : Except BackendFault Json) :
      Made scope known change [execution preparation answer]
        (settled .execute preparation answer)
  /-- The artifact has a code id, so it is not registered again. -/
  | migrated {preparation : Preparation} {artifact : String} {codeId : CodeId}
      (kind : change.kind = .migrate artifact)
      (prepared : Prepared scope change preparation)
      (isKnown : known artifact = some codeId)
      (answer : Except BackendFault Json) :
      Made scope known change [migration preparation codeId answer]
        (settled .migrate preparation answer)
  | registered {preparation : Preparation} {artifact : String}
      (kind : change.kind = .migrate artifact)
      (prepared : Prepared scope change preparation)
      (unknown : known artifact = none)
      (codeId : CodeId)
      (answer : Except BackendFault Json) :
      Made scope known change
        [Provision.registration artifact (.ok codeId), migration preparation codeId answer]
        (settled .migrate preparation answer)
  /-- The artifact is not registered, and the change ends there. -/
  | unregistered {preparation : Preparation} {artifact : String}
      (kind : change.kind = .migrate artifact)
      (prepared : Prepared scope change preparation)
      (unknown : known artifact = none)
      (fault : BackendFault) :
      Made scope known change [Provision.registration artifact (.error fault)]
        (.error (.backend .registerArtifact fault))

variable {scope : Scope} {known : String → Option CodeId} {change : Change}
  {registered after : Registered} {earlier rounds : List CallRound}
  {outcome : Except ChangeCause (String × Json)}

/-- The answer of a call that makes a change. A registration only leads up to one. -/
def concluding? : CallRound → Option (Except BackendFault Json)
  | ⟨.execute _ _ _, answer⟩ => some answer
  | ⟨.migrate _ _ _, answer⟩ => some answer
  | _ => none

private theorem settled_eq_ok_iff
    {operation : Operation}
    {preparation : Preparation}
    {answer : Except BackendFault Json}
    {address : String}
    {response : Json} :
    settled operation preparation answer = .ok (address, response) ↔
      preparation.address = address ∧ answer = .ok response := by
  cases answer <;> simp [settled]

/-- A change is made exactly if its last call is the one that makes it and succeeds. The
result has its response and the address that the target resolves to. -/
theorem Made.eq_ok_iff
    {address : String}
    {response : Json}
    (made : Made scope known change rounds outcome) :
    outcome = .ok (address, response) ↔
      scope.resolveTarget change.target = .ok address ∧
        rounds.getLast?.bind concluding? = some (.ok response) := by
  cases made with
  | unprepared _ => simp
  | unregistered _ _ _ _ => simp [Provision.registration, concluding?]
  | executed _ prepared _ =>
      simp [settled_eq_ok_iff, prepared.address, execution, concluding?]
  | migrated _ prepared _ _ =>
      simp [settled_eq_ok_iff, prepared.address, migration, concluding?]
  | registered _ prepared _ _ _ =>
      simp [settled_eq_ok_iff, prepared.address, migration, concluding?]

/-- A change registers an artifact that had no code id, or none. -/
private theorem Made.registrations_eq (made : Made scope known change rounds outcome) :
    registrations rounds = [] ∨
      ∃ artifact codeId, known artifact = none ∧ registrations rounds = [(artifact, codeId)] := by
  cases made with
  | registered _ _ unknown codeId _ => exact .inr ⟨_, codeId, unknown, rfl⟩
  | _ => exact .inl rfl

/-- The artifacts with their code ids are those of the registrations so far. -/
def Reflects (registered : Registered) (rounds : List CallRound) : Prop :=
  ∀ artifact, registered.lookup artifact = codeIn? rounds artifact

private theorem Reflects.registration
    {artifact : String}
    (reflects : Reflects registered earlier)
    (unknown : codeIn? earlier artifact = none)
    (codeId : CodeId) :
    Reflects ((artifact, codeId) :: registered)
      (earlier ++ [Provision.registration artifact (.ok codeId)]) := by
  intro other
  have own : codeIn? [Provision.registration artifact (.ok codeId)] other =
      [(artifact, codeId)].lookup other := rfl
  rw [codeIn?_append, own, List.lookup_cons, List.lookup_cons, List.lookup_nil]
  by_cases same : other = artifact
  · subst same
    simp [unknown]
  · simp [beq_false_of_ne same, reflects other]

/-- Calls that register nothing leave the code ids as they are. -/
private theorem Reflects.append
    (reflects : Reflects registered earlier)
    (nothing : registrations rounds = []) :
    Reflects registered (earlier ++ rounds) := by
  intro artifact
  rw [reflects artifact, codeIn?, codeIn?, registrations_append, nothing, List.append_nil]

theorem exists_answer_of_path_migrate
    {preparation : Preparation}
    {codeId : CodeId}
    (path : Path (migrate preparation registered codeId) rounds (outcome, after)) :
    ∃ answer, rounds = [migration preparation codeId answer] ∧
      outcome = settled .migrate preparation answer ∧ after = registered := by
  obtain ⟨answer, later, rfl, rest⟩ := Dialogue.path_ask_iff.mp path
  cases answer with
  | ok response =>
      obtain ⟨rfl, same⟩ := Dialogue.path_done_iff.mp rest
      cases same
      exact ⟨.ok response, rfl, rfl, rfl⟩
  | error fault =>
      obtain ⟨rfl, same⟩ := Dialogue.path_done_iff.mp rest
      cases same
      exact ⟨.error fault, rfl, rfl, rfl⟩

/-- However a backend answers, a change is made by the calls given. Afterwards the code
ids are again those of the registrations. -/
theorem made_of_path
    (reflects : Reflects registered earlier)
    (path : Path (Configuration.change scope registered change) rounds (outcome, after)) :
    Made scope (codeIn? earlier) change rounds outcome ∧ Reflects after (earlier ++ rounds) := by
  unfold Configuration.change at path
  split at path
  · rename_i cause failed
    obtain ⟨rfl, same⟩ := Dialogue.path_done_iff.mp path
    cases same
    exact ⟨.unprepared (unprepared_of_prepare failed), reflects.append rfl⟩
  · rename_i preparation given
    have prepared := prepared_of_prepare given
    split at path
    · rename_i funds kind
      obtain ⟨answer, later, rfl, rest⟩ := Dialogue.path_ask_iff.mp path
      cases answer with
      | ok response =>
          obtain ⟨rfl, same⟩ := Dialogue.path_done_iff.mp rest
          cases same
          exact ⟨.executed kind prepared (.ok response), reflects.append rfl⟩
      | error fault =>
          obtain ⟨rfl, same⟩ := Dialogue.path_done_iff.mp rest
          cases same
          exact ⟨.executed kind prepared (.error fault), reflects.append rfl⟩
    · rename_i artifact kind
      split at path
      · rename_i codeId isRegistered
        obtain ⟨answer, rfl, rfl, rfl⟩ := exists_answer_of_path_migrate path
        have isKnown : codeIn? earlier artifact = some codeId :=
          (reflects artifact).symm.trans isRegistered
        exact ⟨.migrated kind prepared isKnown answer, reflects.append rfl⟩
      · rename_i notRegistered
        have unknown : codeIn? earlier artifact = none :=
          (reflects artifact).symm.trans notRegistered
        obtain ⟨registering, later, rfl, rest⟩ := Dialogue.path_ask_iff.mp path
        cases registering with
        | error fault =>
            obtain ⟨rfl, same⟩ := Dialogue.path_done_iff.mp rest
            cases same
            exact ⟨.unregistered kind prepared unknown fault, reflects.append rfl⟩
        | ok codeId =>
            obtain ⟨answer, rfl, rfl, rfl⟩ := exists_answer_of_path_migrate rest
            have withCode := (reflects.registration unknown codeId).append
              (show registrations [migration preparation codeId answer] = [] from rfl)
            rw [List.append_assoc] at withCode
            exact ⟨.registered kind prepared unknown codeId answer, withCode⟩

/-! ## Lists of changes -/

/-- The calls of changes one after the other, after some earlier ones, and the results
from a place on. -/
inductive Applied (scope : Scope) :
    List CallRound → Nat → List Change → List CallRound →
      List (Except ChangeFault ChangeOutcome) → Prop where
  | done (earlier : List CallRound) (index : Nat) : Applied scope earlier index [] [] []
  | next {earlier rounds later : List CallRound} {index : Nat} {change : Change}
      {rest : List Change} {outcome : Except ChangeCause (String × Json)}
      {results : List (Except ChangeFault ChangeOutcome)}
      (made : Made scope (codeIn? earlier) change rounds outcome)
      (others : Applied scope (earlier ++ rounds) (index + 1) rest later results) :
      Applied scope earlier index (change :: rest) (rounds ++ later)
        (result index change.target outcome :: results)

variable {index : Nat} {changes : List Change}
  {results : List (Except ChangeFault ChangeOutcome)}

/-- However a backend answers, changes are made one after the other. -/
theorem applied_of_path
    (reflects : Reflects registered earlier)
    (path : Path (applyFrom scope index registered changes) rounds results) :
    Applied scope earlier index changes rounds results := by
  induction changes generalizing index registered earlier rounds results with
  | nil =>
      obtain ⟨rfl, rfl⟩ := Dialogue.path_done_iff.mp path
      exact .done earlier index
  | cons first rest inductionHypothesis =>
      obtain ⟨ofFirst, ⟨outcome, after⟩, others, rfl, pathFirst, pathOthers⟩ :=
        Dialogue.path_bind_iff.mp path
      obtain ⟨made, reflectsAfter⟩ := made_of_path reflects pathFirst
      obtain ⟨later, laterResults, none, rfl, pathRest, finished⟩ :=
        Dialogue.path_bind_iff.mp pathOthers
      obtain ⟨rfl, rfl⟩ := Dialogue.path_done_iff.mp finished
      rw [List.append_nil]
      exact .next made (inductionHypothesis reflectsAfter pathRest)

/-- No artifact is registered twice. -/
theorem Applied.artifactsIn_nodup
    (applied : Applied scope earlier index changes rounds results)
    (distinct : (artifactsIn earlier).Nodup) :
    (artifactsIn (earlier ++ rounds)).Nodup := by
  induction applied with
  | done earlier index => simpa using distinct
  | @next earlier rounds later index change rest outcome results made others
      inductionHypothesis =>
      rw [← List.append_assoc]
      apply inductionHypothesis
      rcases made.registrations_eq with nothing | ⟨artifact, codeId, unknown, one⟩
      · rwa [artifactsIn, registrations_append, nothing, List.append_nil]
      · rw [artifactsIn, registrations_append, one, List.map_append]
        exact List.nodup_append_comm.mp
          (List.nodup_cons.mpr ⟨codeIn?_eq_none_iff.mp unknown, distinct⟩)

/-- The calls come in parts, one for each change, and each change has the result of its
part. -/
theorem Applied.exists_parts (applied : Applied scope earlier index changes rounds results) :
    ∃ parts : List (List CallRound),
      rounds = parts.flatten ∧ parts.length = changes.length ∧
        results.length = changes.length ∧
        ∀ (place : Nat) (change : Change) (part : List CallRound),
          changes[place]? = some change → parts[place]? = some part →
            ∃ outcome,
              results[place]? = some (result (index + place) change.target outcome) ∧
                Made scope (codeIn? (earlier ++ (parts.take place).flatten)) change part
                  outcome := by
  induction applied with
  | done earlier index => exact ⟨[], rfl, rfl, rfl, nofun⟩
  | @next earlier rounds later index first rest outcome results made others
      inductionHypothesis =>
      obtain ⟨parts, rfl, sameParts, sameResults, others⟩ := inductionHypothesis
      refine ⟨rounds :: parts, rfl, by simp [sameParts], by simp [sameResults], ?_⟩
      intro place change part isChange isPart
      cases place with
      | zero =>
          cases isChange
          cases isPart
          exact ⟨outcome, rfl, by simpa using made⟩
      | succ place =>
          obtain ⟨laterOutcome, isResult, laterMade⟩ := others place change part isChange isPart
          rw [Nat.add_right_comm, Nat.add_assoc] at isResult
          rw [List.append_assoc] at laterMade
          exact ⟨laterOutcome, isResult, laterMade⟩

/-- Against any backend, a list of changes is applied with nothing called before. -/
theorem applied_applyChanges
    {σ : Type}
    (scope : Scope)
    (changes : List Change)
    (backend : Backend σ)
    (state : σ) :
    Applied scope [] 0 changes ((applyChanges scope changes).rounds backend state)
      ((applyChanges scope changes).play backend state).value :=
  applied_of_path (fun _ => rfl)
    (Dialogue.path_rounds backend (applyChanges scope changes) state)

/-- However the backend answers, a list of changes makes the calls of each change, one after
the other and whatever failed before. There is one result for each change, in its place
and for its target, and it is the outcome of those calls: a success exactly if the last
one makes the change and succeeds. An artifact is registered for a change exactly if no
registration of it among the calls before succeeded, and so never succeeds twice. -/
theorem applyChanges_trace
    {σ : Type}
    (scope : Scope)
    (changes : List Change)
    (backend : Backend σ)
    (state : σ) :
    let run := (applyChanges scope changes).play backend state
    let rounds := (applyChanges scope changes).rounds backend state
    run.questions = rounds.map Dialogue.Round.question ∧
      (∃ parts : List (List CallRound),
        rounds = parts.flatten ∧ parts.length = changes.length ∧
          run.value.length = changes.length ∧
          ∀ (place : Nat) (change : Change) (part : List CallRound),
            changes[place]? = some change → parts[place]? = some part →
              ∃ outcome,
                run.value[place]? = some (result place change.target outcome) ∧
                  Made scope (codeIn? (parts.take place).flatten) change part outcome ∧
                  ∀ address response, outcome = .ok (address, response) ↔
                    scope.resolveTarget change.target = .ok address ∧
                      part.getLast?.bind concluding? = some (.ok response)) ∧
      (artifactsIn rounds).Nodup := by
  intro run rounds
  have applied := applied_applyChanges scope changes backend state
  obtain ⟨parts, isFlat, sameParts, sameResults, each⟩ := applied.exists_parts
  refine ⟨(Dialogue.rounds_questions backend (applyChanges scope changes) state).symm,
    ⟨parts, isFlat, sameParts, sameResults, ?_⟩, applied.artifactsIn_nodup List.nodup_nil⟩
  intro place change part isChange isPart
  obtain ⟨outcome, isResult, made⟩ := each place change part isChange isPart
  rw [Nat.zero_add] at isResult
  exact ⟨outcome, isResult, made, fun _ _ => made.eq_ok_iff⟩

/-- A registration that fails is tried again. One that succeeds is not, also if the
migration fails. -/
example :
    let registry : Registry := ⟨[.ofReuse "pool" "sei1pool" none, .ofReuse "hub" "sei1hub" none]⟩
    let backend : Backend Unit := Backend.ofAnswers fun
      | .registerArtifact "pool.wasm" => .ok 7
      | _ => .error .unreadable
    let changes : List Change :=
      [.migrate "hub" "hub.wasm" .null, .migrate "pool" "pool.wasm" .null,
        .migrate "hub" "hub.wasm" .null, .migrate "hub" "pool.wasm" .null]
    ((applyChanges ⟨registry, []⟩ changes).play backend ()).questions =
      [.registerArtifact "hub.wasm", .registerArtifact "pool.wasm", .migrate "sei1pool" 7 .null,
        .registerArtifact "hub.wasm", .migrate "sei1hub" 7 .null] := by
  rfl

end Rollout.Configuration
