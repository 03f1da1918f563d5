/-!
Contract: computations that ask questions and go on with the answers.

Owns:
- dialogues and their sequencing;
- playing a dialogue against a responder, which gives its value, the questions it
  asked in order, and the responder's state at the end;
- running a dialogue in any monad that answers its questions.

Does not own: particular questions and answers. A dialogue asks finitely many
questions whatever the answers are.
-/

namespace Rollout

/-- A computation that either has its value or asks a question. The type of an
answer depends on the question. -/
inductive Dialogue (Question : Type) (Answer : Question → Type) (α : Type) where
  | done (value : α)
  | ask (question : Question) (next : Answer question → Dialogue Question Answer α)

/-- Someone who answers questions and may remember them. -/
abbrev Responder
    (Question : Type)
    (Answer : Question → Type)
    (σ : Type) :=
  (question : Question) → σ → Answer question × σ

/-- What a played dialogue came to. -/
structure Transcript (Question σ α : Type) where
  value : α
  /-- The questions in the order in which they were asked. -/
  questions : List Question
  /-- The responder's state after the last question. -/
  state : σ
  deriving Repr

namespace Dialogue

variable {Question : Type} {Answer : Question → Type} {α β γ σ : Type}

/-! ## Sequencing -/

def bind :
    Dialogue Question Answer α →
      (α → Dialogue Question Answer β) → Dialogue Question Answer β
  | .done value, next => next value
  | .ask question answered, next =>
      .ask question fun answer => (answered answer).bind next

instance : Monad (Dialogue Question Answer) where
  pure := .done
  bind := bind

def single (question : Question) : Dialogue Question Answer (Answer question) :=
  .ask question .done

@[simp] theorem done_bind
    (value : α)
    (next : α → Dialogue Question Answer β) :
    (Dialogue.done value).bind next = next value :=
  rfl

@[simp] theorem ask_bind
    (question : Question)
    (answered : Answer question → Dialogue Question Answer α)
    (next : α → Dialogue Question Answer β) :
    (Dialogue.ask question answered).bind next =
      .ask question fun answer => (answered answer).bind next :=
  rfl

@[simp] theorem bind_done (dialogue : Dialogue Question Answer α) :
    dialogue.bind .done = dialogue := by
  induction dialogue with
  | done value => rfl
  | ask question next inductionHypothesis =>
      simp only [ask_bind, inductionHypothesis]

theorem bind_assoc
    (dialogue : Dialogue Question Answer α)
    (first : α → Dialogue Question Answer β)
    (second : β → Dialogue Question Answer γ) :
    (dialogue.bind first).bind second =
      dialogue.bind fun value => (first value).bind second := by
  induction dialogue with
  | done value => rfl
  | ask question next inductionHypothesis =>
      simp only [ask_bind, inductionHypothesis]

/-! ## Playing -/

def play (responder : Responder Question Answer σ) :
    Dialogue Question Answer α → σ → Transcript Question σ α
  | .done value, state => ⟨value, [], state⟩
  | .ask question next, state =>
      let (answer, answered) := responder question state
      let rest := (next answer).play responder answered
      ⟨rest.value, question :: rest.questions, rest.state⟩

@[simp] theorem play_done
    (responder : Responder Question Answer σ)
    (value : α)
    (state : σ) :
    (Dialogue.done value : Dialogue Question Answer α).play responder state =
      ⟨value, [], state⟩ :=
  rfl

theorem play_ask
    (responder : Responder Question Answer σ)
    (question : Question)
    (next : Answer question → Dialogue Question Answer α)
    (state : σ) :
    (Dialogue.ask question next).play responder state =
      let rest :=
        (next (responder question state).1).play responder (responder question state).2
      ⟨rest.value, question :: rest.questions, rest.state⟩ :=
  rfl

/-- Played in sequence, dialogues ask their questions one after the other. -/
theorem play_bind
    (responder : Responder Question Answer σ)
    (dialogue : Dialogue Question Answer α)
    (next : α → Dialogue Question Answer β)
    (state : σ) :
    (dialogue.bind next).play responder state =
      let first := dialogue.play responder state
      let second := (next first.value).play responder first.state
      ⟨second.value, first.questions ++ second.questions, second.state⟩ := by
  induction dialogue generalizing state with
  | done value => simp
  | ask question answered inductionHypothesis =>
      simp only [ask_bind, play_ask, inductionHypothesis, List.cons_append]

/-! ## Running -/

def run
    {m : Type → Type}
    [Monad m]
    (answer : (question : Question) → m (Answer question)) :
    Dialogue Question Answer α → m α
  | .done value => pure value
  | .ask question next => answer question >>= fun given => (next given).run answer

end Dialogue

end Rollout
