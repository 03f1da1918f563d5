import Mathlib.Data.List.Nodup
import Mathlib.Data.List.Range
import Rollout.Backend.Simulated
import Rollout.Proofs.Provision.Trace
import Rollout.Proofs.Text.Unsigned

/-!
Contract: a simulated chain under any sequence of calls.

Owns:
- numbers with leading zeros, and that contracts of different numbers have different
  addresses;
- what the calls so far tell of the chain that they lead to, kept by each call;
- the answers to a sequence of calls by the calls before each of them, and that those to
  executions, queries and migrations can be left out without a change to the others.

Does not own: what the answers to executions and queries repeat.
-/

namespace Rollout.SimulatedChain

/-! ## Addresses -/

/-- Digits that stand for a number, with zeros before them up to four digits and no
further. -/
structure Padded (number : Nat) (digits : List Char) : Prop where
  decimal : ∀ digit ∈ digits, Text.isDigit digit
  value : Text.digitsValue digits = number
  atLeastFour : 4 ≤ digits.length
  noFurther : 4 < digits.length → digits.head? ≠ some '0'

private theorem digitsValue_zeros_append (zeros : Nat) (digits : List Char) :
    Text.digitsValue (List.replicate zeros '0' ++ digits) = Text.digitsValue digits := by
  induction zeros with
  | zero => rfl
  | succ zeros inductionHypothesis =>
      rw [← inductionHypothesis]
      rfl

private theorem digitsValue_paddedDigits (number : Nat) :
    Text.digitsValue (paddedDigits number) = number := by
  rw [paddedDigits, digitsValue_zeros_append, Text.digitsValue_toDigits]

private theorem padded_paddedDigits (number : Nat) : Padded number (paddedDigits number) where
  decimal := by
    intro digit member
    rcases List.mem_append.mp member with isZero | isDigit
    · rw [List.eq_of_mem_replicate isZero]
      rfl
    · exact Text.isDigit_of_mem_toDigits isDigit
  value := digitsValue_paddedDigits number
  atLeastFour := by
    rw [paddedDigits, List.length_append, List.length_replicate]
    omega
  noFurther := by
    rw [paddedDigits, List.length_append, List.length_replicate]
    intro longer
    have noZeros : 4 - (Nat.toDigits 10 number).length = 0 := by omega
    have positive : 0 < number := by
      by_contra isZero
      obtain rfl : number = 0 := by omega
      simp at longer
    rw [noZeros]
    exact Text.head?_toDigits_ne_zero positive

/-- Also past four digits, contracts of different numbers have different addresses. -/
theorem addressOf_injective : Function.Injective addressOf := by
  intro first second same
  have sameDigits : paddedDigits first = paddedDigits second := by
    simpa [addressOf, ← String.toList_inj] using same
  rw [← digitsValue_paddedDigits first, sameDigits, digitsValue_paddedDigits]

/-! ## Contracts -/

section

variable {address : String} {codeId : CodeId} {contracts : List (String × CodeId)}

private theorem addresses_setContract_of_mem (member : address ∈ contracts.map Prod.fst) :
    (setContract address codeId contracts).map Prod.fst = contracts.map Prod.fst := by
  induction contracts with
  | nil => exact absurd member List.not_mem_nil
  | cons entry rest inductionHypothesis =>
      obtain ⟨first, held⟩ := entry
      rw [setContract]
      split_ifs with here
      · rfl
      · have inRest : address ∈ rest.map Prod.fst :=
          (List.mem_cons.mp member).resolve_left (Ne.symm here)
        rw [List.map_cons, inductionHypothesis inRest, List.map_cons]

/-- A contract at a new address is added behind the others, which stay as they are. -/
private theorem setContract_of_notMem (fresh : address ∉ contracts.map Prod.fst) :
    setContract address codeId contracts = contracts ++ [(address, codeId)] := by
  induction contracts with
  | nil => rfl
  | cons entry rest inductionHypothesis =>
      obtain ⟨first, held⟩ := entry
      rw [List.map_cons, List.mem_cons, not_or] at fresh
      rw [setContract, if_neg (Ne.symm fresh.1), inductionHypothesis fresh.2, List.cons_append]

private theorem lookup_eq_none_iff_notMem :
    contracts.lookup address = none ↔ address ∉ contracts.map Prod.fst := by
  rw [List.lookup_eq_none_iff, List.mem_map]
  constructor
  · rintro others ⟨entry, member, rfl⟩
    exact absurd (others entry member) (by simp)
  · intro fresh entry member
    have different : address ≠ entry.1 := fun same => fresh ⟨entry, member, same.symm⟩
    simpa using different

private theorem mem_addresses_of_lookup (held : contracts.lookup address = some codeId) :
    address ∈ contracts.map Prod.fst := by
  by_contra fresh
  rw [lookup_eq_none_iff_notMem.mpr fresh] at held
  cases held

end

/-! ## Sequences of calls -/

/-- The calls of a list, made one after the other, with the answers of a chain. -/
def answered (chain : SimulatedChain) : List Call → List CallRound
  | [] => []
  | call :: rest => ⟨call, (respond call chain).1⟩ :: answered (respond call chain).2 rest

def after (chain : SimulatedChain) (calls : List Call) : SimulatedChain :=
  calls.foldl (fun chain call => (respond call chain).2) chain

/-- Whoever makes calls, and whatever is made of the answers, the calls alone decide what
is answered. -/
theorem rounds_eq_answered
    {α : Type}
    (exchange : Exchange α)
    (chain : SimulatedChain) :
    exchange.rounds respond chain =
      answered chain (exchange.play respond chain).questions := by
  induction exchange generalizing chain with
  | done value => rfl
  | ask call next inductionHypothesis =>
      rw [Dialogue.play_ask, answered, ← inductionHypothesis]
      rfl

private theorem answered_questions (chain : SimulatedChain) (calls : List Call) :
    (answered chain calls).map Dialogue.Round.question = calls := by
  induction calls generalizing chain with
  | nil => rfl
  | cons call rest inductionHypothesis =>
      rw [answered, List.map_cons, inductionHypothesis]

private theorem answered_append (chain : SimulatedChain) (first second : List Call) :
    answered chain (first ++ second) =
      answered chain first ++ answered (chain.after first) second := by
  induction first generalizing chain with
  | nil => rfl
  | cons call rest inductionHypothesis =>
      rw [List.cons_append, answered, inductionHypothesis]
      rfl

/-- A call of a sequence is answered by the chain that the calls before it lead to. -/
private theorem answered_eq_append_cons
    {chain : SimulatedChain}
    {calls : List Call}
    {before later : List CallRound}
    {round : CallRound}
    (split : answered chain calls = before ++ round :: later) :
    answered chain (before.map Dialogue.Round.question) = before ∧
      round.answer =
        (respond round.question (chain.after (before.map Dialogue.Round.question))).1 := by
  have inOrder := answered_questions chain calls
  rw [split, List.map_append, List.map_cons] at inOrder
  rw [← inOrder, answered_append, answered] at split
  have sameLength : (answered chain (before.map Dialogue.Round.question)).length =
      before.length := by
    rw [← List.length_map Dialogue.Round.question, answered_questions, List.length_map]
  obtain ⟨sameBefore, sameRest⟩ := List.append_inj split sameLength
  refine ⟨sameBefore, ?_⟩
  obtain ⟨sameRound, _⟩ := List.cons.inj sameRest
  rw [← sameRound]

/-! ## Calls that create nothing -/

/-- Whether a call creates what later answers tell of: a code id or a contract. -/
def creates : Call → Bool
  | .registerArtifact _ => true
  | .instantiate _ _ _ _ => true
  | .execute _ _ _ => false
  | .query _ _ => false
  | .migrate _ _ _ => false

private theorem operation_of_not_creates
    {call : Call}
    (createsNothing : creates call = false) :
    call.operation ≠ .registerArtifact ∧ call.operation ≠ .instantiate := by
  cases call with
  | registerArtifact artifact => cases createsNothing
  | instantiate codeId payload funds label => cases createsNothing
  | _ => exact ⟨nofun, nofun⟩

/-- Two chains with as many artifacts, and with contracts at the same addresses. -/
structure Alike (chain other : SimulatedChain) : Prop where
  artifacts : chain.artifacts.length = other.artifacts.length
  addresses : chain.contracts.map Prod.fst = other.contracts.map Prod.fst

section

variable {chain other : SimulatedChain} {call : Call}

private theorem Alike.refl (chain : SimulatedChain) : Alike chain chain :=
  ⟨rfl, rfl⟩

private theorem Alike.trans
    {third : SimulatedChain}
    (first : Alike chain other)
    (second : Alike other third) :
    Alike chain third :=
  ⟨first.artifacts.trans second.artifacts, first.addresses.trans second.addresses⟩

private theorem Alike.length_contracts (alike : Alike chain other) :
    chain.contracts.length = other.contracts.length := by
  rw [← List.length_map Prod.fst, alike.addresses, List.length_map]

/-- The answer to a migration depends on the chain only through the addresses. -/
theorem respond_migrate_eq (address : String) (codeId : CodeId) (payload : Json) :
    (respond (.migrate address codeId payload) chain).1 =
      if address ∈ chain.contracts.map Prod.fst then
        .ok (Json.ofMembers
          [("simulated", .string "migrate"), ("contract", .string address),
            ("code_id", Json.ofNat codeId.toNat), ("msg", payload)])
      else
        .error (.response ("no contract at " ++ address ++ " to migrate")) := by
  cases held : chain.contracts.lookup address with
  | none =>
      rw [if_neg (lookup_eq_none_iff_notMem.mp held), respond, held]
  | some code =>
      rw [if_pos (mem_addresses_of_lookup held), respond, held]

/-- A call that creates nothing may change the code of a contract, but no address. -/
theorem alike_of_not_creates
    (createsNothing : creates call = false)
    (chain : SimulatedChain) :
    Alike (respond call chain).2 chain := by
  cases call with
  | registerArtifact artifact => cases createsNothing
  | instantiate codeId payload funds label => cases createsNothing
  | execute address payload funds => exact .refl chain
  | query address payload => exact .refl chain
  | migrate address codeId payload =>
      cases held : chain.contracts.lookup address with
      | none =>
          rw [respond, held]
          exact .refl chain
      | some code =>
          rw [respond, held]
          exact ⟨rfl, addresses_setContract_of_mem (mem_addresses_of_lookup held)⟩

/-- Chains that are alike give the same answer to every call. -/
theorem Alike.answer_eq
    (alike : Alike chain other)
    (call : Call) :
    (respond call chain).1 = (respond call other).1 := by
  cases call with
  | registerArtifact artifact => simp [respond, alike.artifacts]
  | instantiate codeId payload funds label => simp [respond, alike.length_contracts]
  | execute address payload funds => rfl
  | query address payload => rfl
  | migrate address codeId payload =>
      rw [respond_migrate_eq, respond_migrate_eq, alike.addresses]

/-- The addresses of a chain after setting a contract depend on those before alone. -/
private theorem addresses_setContract
    (address : String)
    (codeId : CodeId)
    (alike : Alike chain other) :
    (setContract address codeId chain.contracts).map Prod.fst =
      (setContract address codeId other.contracts).map Prod.fst := by
  by_cases known : address ∈ chain.contracts.map Prod.fst
  · rw [addresses_setContract_of_mem known]
    rw [alike.addresses] at known
    rw [addresses_setContract_of_mem known, alike.addresses]
  · rw [setContract_of_notMem known]
    rw [alike.addresses] at known
    rw [setContract_of_notMem known, List.map_append, alike.addresses, List.map_append]

/-- Chains that are alike stay so under the same call. -/
private theorem Alike.step
    (alike : Alike chain other)
    (call : Call) :
    Alike (respond call chain).2 (respond call other).2 := by
  cases call with
  | registerArtifact artifact => exact ⟨by simp [respond, alike.artifacts], alike.addresses⟩
  | instantiate codeId payload funds label =>
      refine ⟨alike.artifacts, ?_⟩
      simp only [respond, alike.length_contracts]
      exact addresses_setContract _ codeId alike
  | execute address payload funds => exact alike
  | query address payload => exact alike
  | migrate address codeId payload =>
      have createsNothing : creates (.migrate address codeId payload) = false := rfl
      have fromChain := alike_of_not_creates createsNothing chain
      have fromOther := alike_of_not_creates createsNothing other
      exact (fromChain.trans alike).trans ⟨fromOther.artifacts.symm, fromOther.addresses.symm⟩

end

/-! ## What a chain has of the calls before -/

/-- How many calls of a kind are among some rounds. -/
def times (operation : Operation) (rounds : List CallRound) : Nat :=
  rounds.countP fun round => round.question.operation = operation

def newAddress? : CallRound → Option String
  | ⟨.instantiate _ _ _ _, .ok address⟩ => some address
  | _ => none

def newAddresses (rounds : List CallRound) : List String :=
  rounds.filterMap newAddress?

/-- What a chain has of the calls before: an artifact for each registration, and a contract
for each instantiation, at the address that was its answer. -/
structure Reflects (chain : SimulatedChain) (rounds : List CallRound) : Prop where
  artifacts : chain.artifacts.length = times .registerArtifact rounds
  addresses : chain.contracts.map Prod.fst = newAddresses rounds
  numbered : newAddresses rounds =
    (List.range (times .instantiate rounds)).map fun place => addressOf (place + 1)

theorem reflects_empty : Reflects empty [] :=
  ⟨rfl, rfl, rfl⟩

variable {chain : SimulatedChain} {rounds : List CallRound}

private theorem Reflects.length_contracts (reflects : Reflects chain rounds) :
    chain.contracts.length = times .instantiate rounds := by
  rw [← List.length_map Prod.fst, reflects.addresses, reflects.numbered, List.length_map,
    List.length_range]

/-- The number of the next contract was not given before, since numbers count up. -/
theorem Reflects.next_notMem (reflects : Reflects chain rounds) :
    addressOf (chain.contracts.length + 1) ∉ chain.contracts.map Prod.fst := by
  rw [reflects.addresses, reflects.numbered, reflects.length_contracts, List.mem_map]
  rintro ⟨place, inRange, same⟩
  have sameNumber := addressOf_injective same
  have below := List.mem_range.mp inRange
  omega

private theorem Reflects.nodup (reflects : Reflects chain rounds) :
    (newAddresses rounds).Nodup := by
  rw [reflects.numbered]
  refine List.Nodup.map ?_ List.nodup_range
  intro first second same
  exact Nat.succ_injective (addressOf_injective same)

private theorem times_append (operation : Operation) (first second : List CallRound) :
    times operation (first ++ second) = times operation first + times operation second :=
  List.countP_append

private theorem times_singleton_of_ne
    {operation : Operation}
    {round : CallRound}
    (different : round.question.operation ≠ operation) :
    times operation [round] = 0 := by
  simp [times, different]

private theorem newAddresses_append (first second : List CallRound) :
    newAddresses (first ++ second) = newAddresses first ++ newAddresses second :=
  List.filterMap_append

/-- A call that creates nothing leaves a chain with what it has of the calls before. -/
private theorem Reflects.of_not_creates
    {call : Call}
    (reflects : Reflects chain rounds)
    (createsNothing : creates call = false) :
    Reflects (respond call chain).2 (rounds ++ [⟨call, (respond call chain).1⟩]) := by
  have alike := alike_of_not_creates createsNothing chain
  have noAddress : newAddresses [⟨call, (respond call chain).1⟩] = [] := by
    cases call with
    | instantiate codeId payload funds label => cases createsNothing
    | _ => rfl
  obtain ⟨notRegistration, notInstantiation⟩ := operation_of_not_creates createsNothing
  constructor
  · rw [alike.artifacts, times_append, times_singleton_of_ne notRegistration,
      reflects.artifacts]
    rfl
  · rw [alike.addresses, newAddresses_append, noAddress, reflects.addresses, List.append_nil]
  · rw [newAddresses_append, noAddress, times_append, times_singleton_of_ne notInstantiation,
      List.append_nil, reflects.numbered]
    rfl

/-- What a chain has of the calls before is kept by every call. -/
private theorem Reflects.step (reflects : Reflects chain rounds) (call : Call) :
    Reflects (respond call chain).2 (rounds ++ [⟨call, (respond call chain).1⟩]) := by
  cases call with
  | registerArtifact artifact =>
      constructor
      · rw [times_append, ← reflects.artifacts]
        exact List.length_append
      · rw [newAddresses_append, ← reflects.addresses]
        exact (List.append_nil _).symm
      · rw [newAddresses_append, reflects.numbered, times_append]
        exact List.append_nil _
  | instantiate codeId payload funds label =>
      constructor
      · rw [times_append, ← reflects.artifacts]
        rfl
      · rw [newAddresses_append, ← reflects.addresses]
        show (setContract _ _ _).map Prod.fst = _
        rw [setContract_of_notMem reflects.next_notMem, List.map_append]
        rfl
      · rw [newAddresses_append, reflects.numbered, times_append]
        show _ ++ [addressOf (chain.contracts.length + 1)] =
          (List.range (times .instantiate rounds + 1)).map _
        rw [reflects.length_contracts, List.range_succ, List.map_append]
        rfl
  | execute address payload funds => exact reflects.of_not_creates rfl
  | query address payload => exact reflects.of_not_creates rfl
  | migrate address codeId payload => exact reflects.of_not_creates rfl

theorem Reflects.run (reflects : Reflects chain rounds) (calls : List Call) :
    Reflects (chain.after calls) (rounds ++ answered chain calls) := by
  induction calls generalizing chain rounds with
  | nil =>
      rw [answered, List.append_nil]
      exact reflects
  | cons call rest inductionHypothesis =>
      have restReflects := inductionHypothesis (reflects.step call)
      rw [List.append_assoc] at restReflects
      exact restReflects

/-! ## Calls left out -/

/-- If some calls that create nothing are left out of a sequence, the others are answered
as before, also by a chain that is only alike. -/
theorem answered_of_sublist
    {chain other : SimulatedChain}
    {calls : List Call}
    {kept : List CallRound}
    (alike : Alike chain other)
    (sublist : kept.Sublist (answered chain calls))
    (keepsCreations : kept.filter (creates ·.question) =
      (answered chain calls).filter (creates ·.question)) :
    answered other (kept.map Dialogue.Round.question) = kept := by
  induction calls generalizing chain other kept with
  | nil =>
      obtain rfl := List.sublist_nil.mp sublist
      rfl
  | cons call rest inductionHypothesis =>
      cases sublist with
      | cons _ inRest =>
          have createsNothing : creates call = false := by
            by_contra isCreation
            rw [Bool.not_eq_false] at isCreation
            have shorter := (inRest.filter (creates ·.question)).length_le
            rw [keepsCreations, answered, List.filter_cons, if_pos isCreation,
              List.length_cons] at shorter
            omega
          have stillAlike := (alike_of_not_creates createsNothing chain).trans alike
          refine inductionHypothesis stillAlike inRest ?_
          rw [keepsCreations, answered, List.filter_cons, createsNothing]
          rfl
      | cons_cons _ inRest =>
          rename_i kept
          have keepsOthers : kept.filter (creates ·.question) =
              (answered (respond call chain).2 rest).filter (creates ·.question) := by
            rw [answered, List.filter_cons, List.filter_cons] at keepsCreations
            split_ifs at keepsCreations with isCreation
            · exact (List.cons.inj keepsCreations).2
            · exact keepsCreations
          rw [List.map_cons, answered, ← alike.answer_eq,
            inductionHypothesis (alike.step call) inRest keepsOthers]

/-! ## Answers -/

/-- A new chain answers a sequence of calls by what stands before each of them, whoever
makes the calls. Registrations are numbered from one. So are instantiations, and the
address of a contract ends in its number with at least four digits; no address is given
twice, and a new contract leaves all others as they are. A migration succeeds exactly at
the address of a contract made before. Executions, queries and migrations can be left out,
and the other calls are answered as before. -/
theorem answered_by_number (calls : List Call) :
    let rounds := answered empty calls
    (∀ (α : Type) (exchange : Exchange α),
        (exchange.play respond empty).questions = calls →
          exchange.rounds respond empty = rounds) ∧
      (∀ before artifact answer later,
        rounds = before ++ ⟨.registerArtifact artifact, answer⟩ :: later →
          answer = .ok (UInt64.ofNat (times .registerArtifact before + 1))) ∧
      (∀ before codeId payload funds label answer later,
        rounds = before ++ ⟨.instantiate codeId payload funds label, answer⟩ :: later →
          let chain := empty.after (before.map Dialogue.Round.question)
          ∃ digits, Padded (times .instantiate before + 1) digits ∧
            answer = .ok ("sei1sim" ++ String.ofList digits) ∧
            (respond (.instantiate codeId payload funds label) chain).2.contracts =
              chain.contracts ++ [("sei1sim" ++ String.ofList digits, codeId)]) ∧
      (newAddresses rounds).Nodup ∧
      (∀ before address codeId payload answer later,
        rounds = before ++ ⟨.migrate address codeId payload, answer⟩ :: later →
          ((∃ response, answer = .ok response) ↔ address ∈ newAddresses before)) ∧
      ∀ kept : List CallRound, kept.Sublist rounds →
        kept.filter (creates ·.question) = rounds.filter (creates ·.question) →
          answered empty (kept.map Dialogue.Round.question) = kept := by
  intro rounds
  have reflectsAt : ∀ before round later, rounds = before ++ round :: later →
      Reflects (empty.after (before.map Dialogue.Round.question)) before := by
    intro before round later split
    have reflects := reflects_empty.run (before.map Dialogue.Round.question)
    rw [List.nil_append, (answered_eq_append_cons split).1] at reflects
    exact reflects
  refine ⟨?sameCalls, ?registered, ?instantiated, (reflects_empty.run calls).nodup,
    ?migrated, fun kept => answered_of_sublist (.refl empty)⟩
  case sameCalls =>
    rintro α exchange rfl
    exact rounds_eq_answered exchange empty
  case registered =>
    intro before artifact answer later split
    obtain ⟨_, answers⟩ := answered_eq_append_cons split
    rw [← (reflectsAt before _ later split).artifacts, show answer = _ from answers]
    simp [respond]
  case instantiated =>
    intro before codeId payload funds label answer later split
    obtain ⟨_, answers⟩ := answered_eq_append_cons split
    have reflects := reflectsAt before _ later split
    refine ⟨_, padded_paddedDigits _, ?_, ?_⟩
    · rw [← reflects.length_contracts]
      exact answers
    · rw [← reflects.length_contracts]
      exact setContract_of_notMem reflects.next_notMem
  case migrated =>
    intro before address codeId payload answer later split
    obtain ⟨_, answers⟩ := answered_eq_append_cons split
    rw [← (reflectsAt before _ later split).addresses, show answer = _ from answers,
      respond_migrate_eq]
    split_ifs with known <;> simp [known]

/-- A migration in between has no part in the numbers, and fails only at an address that no
contract has. -/
example :
    (answered empty
      [.instantiate 1 .null [] "a", .migrate "sei1sim0001" 2 .null,
        .migrate "sei1sim0002" 2 .null, .instantiate 1 .null [] "b"]).map newAddress? =
      [some "sei1sim0001", none, none, some "sei1sim0002"] := by
  decide +kernel

end Rollout.SimulatedChain
