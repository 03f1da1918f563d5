import Mathlib.Data.List.Basic
import Rollout.Proofs.Seid.Events
import Rollout.Proofs.Text.Literals

/-!
Contract: the answers to transactions, by what their command replied.

Owns:
- the replies that accept a transaction, and the fault of each other reply;
- the code id and the address that a response reports;
- that a transaction succeeds exactly if it is accepted and, where it is to give a code id
  or an address, its response reports one.

Does not own: the arguments of commands, and replies to queries.
-/

namespace Rollout.Seid

variable {reply : Except LaunchFault ProcessOutput} {response : Json} {fault : BackendFault}
  {codeId : CodeId} {address : String}

/-! ## Accepted transactions -/

/-- The program succeeded and printed a response as JSON text. -/
def Printed (reply : Except LaunchFault ProcessOutput) (response : Json) : Prop :=
  ∃ output, reply = .ok output ∧ output.exitCode = 0 ∧
    Json.ofBytes? output.stdout = some response

/-- A response reports a failure by a code, which is a positive whole number of 64 bits. -/
def ReportsFailure (response : Json) (code : Nat) : Prop :=
  0 < code ∧ code < UInt64.size ∧ response.member? "code" = some (.number (.integer code))

/-- What a response tells about a failure; nothing if it has no text for it. -/
def failureLog (response : Json) : String :=
  match response.member? "raw_log" with
  | some (.string text) => text
  | _ => ""

/-- A reply accepts a transaction with a response. -/
structure Accepts (reply : Except LaunchFault ProcessOutput) (response : Json) : Prop where
  printed : Printed reply response
  noFailure : ∀ code, ¬ ReportsFailure response code

/-- A reply refuses a transaction for a fault. A reported failure counts whatever else the
response holds. -/
inductive Refuses (reply : Except LaunchFault ProcessOutput) : BackendFault → Prop where
  | notStarted {fault : LaunchFault}
      (failed : reply = .error fault) :
      Refuses reply (.command fault.message)
  | unsuccessful {output : ProcessOutput}
      (ended : reply = .ok output)
      (failed : output.exitCode ≠ 0) :
      Refuses reply (.command output.complaint)
  | unreadable {output : ProcessOutput}
      (ended : reply = .ok output)
      (succeeded : output.exitCode = 0)
      (noText : Json.ofBytes? output.stdout = none) :
      Refuses reply .unreadable
  | reported {response : Json} {code : Nat}
      (printed : Printed reply response)
      (reports : ReportsFailure response code) :
      Refuses reply
        (.response ("tx failed with code " ++ toString code ++ ": " ++ failureLog response))

private theorem unsigned?_eq_some_iff
    {value : Json}
    {word : UInt64} :
    value.unsigned? = some word ↔ value = .number (.integer word.toNat) := by
  unfold Json.unsigned?
  split
  · rename_i number
    rw [Json.number.injEq, Json.Number.integer.injEq]
    split_ifs with inRange
    · rw [Option.some.injEq]
      constructor
      · rintro rfl
        simp [Nat.mod_eq_of_lt inRange]
      · intro same
        have sameNumber : number = word.toNat := Int.natCast_inj.mp same
        rw [sameNumber, UInt64.ofNat_toNat]
    · refine iff_of_false nofun fun same => ?_
      have sameNumber : number = word.toNat := Int.natCast_inj.mp same
      exact inRange (sameNumber ▸ word.toNat_lt)
  · rename_i notNumber
    refine iff_of_false nofun ?_
    rintro rfl
    exact notNumber word.toNat rfl

/-- A member is a whole number of 64 bits exactly if it is read as one. -/
private theorem bind_unsigned?_eq_some_iff
    {word : UInt64} :
    (response.member? "code").bind Json.unsigned? = some word ↔
      response.member? "code" = some (.number (.integer word.toNat)) := by
  rw [Option.bind_eq_some_iff]
  simp only [unsigned?_eq_some_iff, exists_eq_right]

private theorem reportsFailure_iff
    {code : Nat} :
    ReportsFailure response code ↔
      ∃ word : UInt64, (response.member? "code").bind Json.unsigned? = some word ∧ word ≠ 0 ∧
        word.toNat = code := by
  simp only [bind_unsigned?_eq_some_iff]
  constructor
  · rintro ⟨positive, inRange, isCode⟩
    have sameCode : (UInt64.ofNat code).toNat = code := UInt64.toNat_ofNat_of_lt' inRange
    refine ⟨UInt64.ofNat code, by rw [sameCode]; exact isCode, ?_, sameCode⟩
    intro isZero
    rw [isZero] at sameCode
    exact absurd sameCode.symm (Nat.ne_of_gt positive)
  · rintro ⟨word, isCode, notZero, rfl⟩
    refine ⟨?_, word.toNat_lt, isCode⟩
    exact Nat.pos_of_ne_zero fun isZero => notZero (UInt64.toNat_inj.mp isZero)

private theorem failureLog_eq (response : Json) :
    failureLog response = ((response.member? "raw_log").bind Json.text?).getD "" := by
  unfold failureLog
  cases response.member? "raw_log" with
  | none => rfl
  | some member => cases member <;> rfl

private theorem acceptedResponse_of_no_failure
    (noFailure : ∀ code, ¬ ReportsFailure response code) :
    acceptedResponse response = .ok response := by
  simp only [reportsFailure_iff] at noFailure
  unfold acceptedResponse
  cases read : (response.member? "code").bind Json.unsigned? with
  | none => rfl
  | some word =>
      have isZero : word = 0 := by
        by_contra notZero
        exact noFailure word.toNat ⟨word, read, notZero, rfl⟩
      exact if_pos isZero

private theorem acceptedResponse_of_failure
    {code : Nat}
    (reports : ReportsFailure response code) :
    acceptedResponse response =
      .error (.response
        ("tx failed with code " ++ toString code ++ ": " ++ failureLog response)) := by
  obtain ⟨word, read, notZero, rfl⟩ := reportsFailure_iff.mp reports
  simp only [acceptedResponse, read, if_neg notZero, failureLog_eq]

private theorem jsonOf_of_printed (printed : Printed reply response) :
    jsonOf reply = .ok response := by
  obtain ⟨output, rfl, succeeded, text⟩ := printed
  simp [jsonOf, ProcessOutput.succeeded, succeeded, text]

/-- The response of a transaction, or the fault that it is refused for. -/
def outcome (reply : Except LaunchFault ProcessOutput) : Except BackendFault Json :=
  (jsonOf reply).bind acceptedResponse

private theorem outcome_of_accepts (accepts : Accepts reply response) :
    outcome reply = .ok response := by
  rw [outcome, jsonOf_of_printed accepts.printed]
  exact acceptedResponse_of_no_failure accepts.noFailure

private theorem outcome_of_refuses (refuses : Refuses reply fault) :
    outcome reply = .error fault := by
  cases refuses with
  | notStarted failed =>
      rw [failed]
      rfl
  | unsuccessful ended failed =>
      rw [ended]
      simp [outcome, jsonOf, ProcessOutput.succeeded, failed, Except.bind]
  | unreadable ended succeeded noText =>
      rw [ended]
      simp [outcome, jsonOf, ProcessOutput.succeeded, succeeded, noText, Except.bind]
  | reported printed reports =>
      rw [outcome, jsonOf_of_printed printed]
      exact acceptedResponse_of_failure reports

private theorem accepts_or_refuses (reply : Except LaunchFault ProcessOutput) :
    (∃ response, Accepts reply response) ∨ ∃ fault, Refuses reply fault := by
  cases reply with
  | error fault => exact .inr ⟨_, .notStarted rfl⟩
  | ok output =>
      by_cases succeeded : output.exitCode = 0
      · cases text : Json.ofBytes? output.stdout with
        | none => exact .inr ⟨_, .unreadable rfl succeeded text⟩
        | some response =>
            have printed : Printed (.ok output) response := ⟨output, rfl, succeeded, text⟩
            by_cases reports : ∃ code, ReportsFailure response code
            · obtain ⟨code, reportsCode⟩ := reports
              exact .inr ⟨_, .reported printed reportsCode⟩
            · exact .inl ⟨response, printed, not_exists.mp reports⟩
      · exact .inr ⟨_, .unsuccessful rfl succeeded⟩

private theorem outcome_eq_ok_iff : outcome reply = .ok response ↔ Accepts reply response := by
  refine ⟨fun succeeded => ?_, outcome_of_accepts⟩
  rcases accepts_or_refuses reply with ⟨other, accepts⟩ | ⟨other, refuses⟩
  · rw [outcome_of_accepts accepts] at succeeded
    exact Except.ok.inj succeeded ▸ accepts
  · rw [outcome_of_refuses refuses] at succeeded
    cases succeeded

/-! ## Identities -/

/-- A response reports a text under a key in an event of a type: it is the value of the
first attribute of this key among all events of the type. -/
def ReportsText (type key : String) (response : Json) (text : String) : Prop :=
  ∃ place found, FirstAt type key response place found ∧
    found.member? "value" = some (.string text)

/-- A response reports the code id of a stored artifact, as an unsigned literal of 64
bits. -/
def ReportsCode (response : Json) (codeId : CodeId) : Prop :=
  ∃ text, ReportsText "store_code" "code_id" response text ∧
    Text.IsLiteral UInt64.size text.toList codeId.toNat

def ReportsAddress (response : Json) (address : String) : Prop :=
  ReportsText "instantiate" "_contract_address" response address

private theorem storedCode?_eq_some_iff :
    storedCode? response = some codeId ↔ ReportsCode response codeId := by
  have isLiteral : ∀ (text : String) (number : Nat),
      Text.readUnsigned UInt64.size text = .ok number ↔
        Text.IsLiteral UInt64.size text.toList number :=
    fun _ _ => Text.readUnsigned_eq_ok_iff (by decide)
  unfold ReportsCode ReportsText storedCode?
  simp only [← eventAttribute?_eq_some_iff, ← isLiteral]
  cases eventAttribute? response "store_code" "code_id" with
  | none => simp
  | some text =>
      simp only [Option.some.injEq, exists_eq_left']
      cases read : Text.readUnsigned UInt64.size text with
      | error fault => simp
      | ok number =>
          have inRange : number < UInt64.size := ((isLiteral text number).mp read).lt
          have sameNumber : (UInt64.ofNat number).toNat = number :=
            UInt64.toNat_ofNat_of_lt' inRange
          rw [Option.some.injEq, Except.ok.injEq, ← UInt64.toNat_inj, sameNumber]

private theorem newAddress?_eq_some_iff :
    newAddress? response = some address ↔ ReportsAddress response address :=
  eventAttribute?_eq_some_iff

/-! ## Answers -/

def command (seid : Seid) (call : Call) : Launch :=
  ⟨seid.settings.binary, seid.callArguments call, none⟩

private theorem value_respond
    {σ : Type}
    (seid : Seid)
    (call : Call)
    (shell : Responder Launch LaunchAnswer σ)
    (state : σ) :
    ((seid.respond call).play shell state).value =
      answerOf ((seid.command call).start.play shell state).value call := by
  rw [respond, Dialogue.play_bind]
  rfl

/-- What a transaction made, as its response reports it; the transaction fails if it is
refused or if nothing is reported. -/
def madeBy
    {α : Type}
    (reported? : Json → Option α)
    (missing : BackendFault)
    (reply : Except LaunchFault ProcessOutput) :
    Except BackendFault α :=
  match outcome reply with
  | .error fault => .error fault
  | .ok response =>
      match reported? response with
      | some made => .ok made
      | none => .error missing

private theorem answerOf_registerArtifact (artifact : String) :
    answerOf reply (.registerArtifact artifact) =
      madeBy storedCode? (.response ("no code id in store response for " ++ artifact)) reply := by
  unfold answerOf madeBy outcome
  cases (jsonOf reply).bind acceptedResponse with
  | error fault => rfl
  | ok response => cases reported : storedCode? response <;> simp only [reported]

private theorem answerOf_instantiate
    (codeId : CodeId)
    (payload : Json)
    (funds : List Coin)
    (label : String) :
    answerOf reply (.instantiate codeId payload funds label) =
      madeBy newAddress?
        (.response ("no contract address in instantiate response for " ++ label)) reply := by
  unfold answerOf madeBy outcome
  cases (jsonOf reply).bind acceptedResponse with
  | error fault => rfl
  | ok response => cases reported : newAddress? response <;> simp only [reported]

section

variable {α : Type} {reported? : Json → Option α} {missing : BackendFault} {made : α}

private theorem madeBy_eq_ok_iff :
    madeBy reported? missing reply = .ok made ↔
      ∃ response, Accepts reply response ∧ reported? response = some made := by
  simp only [← outcome_eq_ok_iff]
  unfold madeBy
  cases outcome reply with
  | error fault => simp
  | ok response => cases reported : reported? response <;> simp [reported]

private theorem madeBy_of_refuses (refuses : Refuses reply fault) :
    madeBy reported? missing reply = .error fault := by
  simp only [madeBy, outcome_of_refuses refuses]

private theorem madeBy_of_missing
    (accepts : Accepts reply response)
    (nothing : ∀ made, reported? response ≠ some made) :
    madeBy reported? missing reply = .error missing := by
  simp only [madeBy, outcome_of_accepts accepts, Option.eq_none_iff_forall_ne_some.mpr nothing]

end

private theorem answerOf_of_refuses
    {call : Call}
    (transaction : call.operation ≠ .query)
    (refuses : Refuses reply fault) :
    answerOf reply call = .error fault := by
  cases call with
  | registerArtifact artifact =>
      rw [answerOf_registerArtifact]
      exact madeBy_of_refuses refuses
  | instantiate codeId payload funds label =>
      rw [answerOf_instantiate]
      exact madeBy_of_refuses refuses
  | execute address payload funds => exact outcome_of_refuses refuses
  | query address payload => exact absurd rfl transaction
  | migrate address codeId payload => exact outcome_of_refuses refuses

/-- Whatever the program replies, a transaction fails for the fault that the reply refuses it
for, and every other reply accepts it. An accepted registration gives the code id that its
response reports, and an accepted instantiation the address; they fail if none is reported.
An accepted execution or migration gives the response. -/
theorem transactions_read_replies
    {σ : Type}
    (seid : Seid)
    (shell : Responder Launch LaunchAnswer σ)
    (state : σ) :
    let reply (call : Call) := ((seid.command call).start.play shell state).value
    let answer (call : Call) : call.Answer := ((seid.respond call).play shell state).value
    (∀ call, (∃ response, Accepts (reply call) response) ∨
        ∃ fault, Refuses (reply call) fault) ∧
      (∀ call fault, call.operation ≠ .query → Refuses (reply call) fault →
        answer call = .error fault) ∧
      (∀ artifact codeId, answer (.registerArtifact artifact) = .ok codeId ↔
        ∃ response, Accepts (reply (.registerArtifact artifact)) response ∧
          ReportsCode response codeId) ∧
      (∀ artifact response, Accepts (reply (.registerArtifact artifact)) response →
        (∀ codeId, ¬ ReportsCode response codeId) →
          answer (.registerArtifact artifact) =
            .error (.response ("no code id in store response for " ++ artifact))) ∧
      (∀ codeId payload funds label address,
        answer (.instantiate codeId payload funds label) = .ok address ↔
          ∃ response, Accepts (reply (.instantiate codeId payload funds label)) response ∧
            ReportsAddress response address) ∧
      (∀ codeId payload funds label response,
        Accepts (reply (.instantiate codeId payload funds label)) response →
          (∀ address, ¬ ReportsAddress response address) →
            answer (.instantiate codeId payload funds label) =
              .error (.response ("no contract address in instantiate response for " ++ label))) ∧
      (∀ address payload funds response, answer (.execute address payload funds) = .ok response ↔
        Accepts (reply (.execute address payload funds)) response) ∧
      (∀ address codeId payload response,
        answer (.migrate address codeId payload) = .ok response ↔
          Accepts (reply (.migrate address codeId payload)) response) := by
  intro reply answer
  have answers : ∀ call, answer call = answerOf (reply call) call :=
    fun call => value_respond seid call shell state
  refine ⟨fun call => accepts_or_refuses _, ?refused, ?registered, ?codeMissing, ?instantiated,
    ?addressMissing, ?executed, ?migrated⟩
  case refused =>
    intro call fault transaction refuses
    rw [answers, answerOf_of_refuses transaction refuses]
  case registered =>
    intro artifact codeId
    simp only [answers, answerOf_registerArtifact, madeBy_eq_ok_iff, storedCode?_eq_some_iff]
  case codeMissing =>
    intro artifact response accepts nothing
    rw [answers, answerOf_registerArtifact]
    exact madeBy_of_missing accepts fun codeId => mt storedCode?_eq_some_iff.mp (nothing codeId)
  case instantiated =>
    intro codeId payload funds label address
    simp only [answers, answerOf_instantiate, madeBy_eq_ok_iff, newAddress?_eq_some_iff]
  case addressMissing =>
    intro codeId payload funds label response accepts nothing
    rw [answers, answerOf_instantiate]
    exact madeBy_of_missing accepts fun address => mt newAddress?_eq_some_iff.mp (nothing address)
  case executed =>
    intro address payload funds response
    rw [answers]
    exact outcome_eq_ok_iff
  case migrated =>
    intro address codeId payload response
    rw [answers]
    exact outcome_eq_ok_iff

end Rollout.Seid
