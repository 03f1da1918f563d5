import Mathlib.Algebra.GroupWithZero.Nat
import Rollout.Dialogue

/-!
Contract: the questions of a dialogue together with their answers.

Owns:
- rounds, and the rounds of a dialogue that is played against a responder;
- the paths of a dialogue: the rounds that lead to a value, whoever answers;
- that playing follows a path, and the paths of dialogues in sequence;
- dialogues of a list in turn, their parts, and walks that sum up their values.

Does not own: particular questions and answers. What holds on every path holds
against every responder.
-/

namespace Rollout.Dialogue

structure Round (Question : Type) (Answer : Question → Type) where
  question : Question
  answer : Answer question

variable {Question : Type} {Answer : Question → Type} {α β σ : Type}

/-! ## Rounds of a play -/

/-- The rounds of a dialogue that is played against a responder, in order. -/
def rounds (responder : Responder Question Answer σ) :
    Dialogue Question Answer α → σ → List (Round Question Answer)
  | .done _, _ => []
  | .ask question next, state =>
      let (answer, answered) := responder question state
      ⟨question, answer⟩ :: (next answer).rounds responder answered

/-- The questions of the rounds are those that the play asked. -/
theorem rounds_questions
    (responder : Responder Question Answer σ)
    (dialogue : Dialogue Question Answer α)
    (state : σ) :
    (dialogue.rounds responder state).map Round.question =
      (dialogue.play responder state).questions := by
  induction dialogue generalizing state with
  | done value => rfl
  | ask question next inductionHypothesis =>
      simp only [rounds, List.map_cons, play_ask, inductionHypothesis]

/-- The rounds of dialogues in sequence are those of the first and then those of the
second. -/
theorem rounds_bind
    (responder : Responder Question Answer σ)
    (dialogue : Dialogue Question Answer α)
    (next : α → Dialogue Question Answer β)
    (state : σ) :
    (dialogue.bind next).rounds responder state =
      let first := dialogue.play responder state
      dialogue.rounds responder state ++ (next first.value).rounds responder first.state := by
  induction dialogue generalizing state with
  | done value => rfl
  | ask question answered inductionHypothesis =>
      simp only [ask_bind, rounds, inductionHypothesis, play_ask, List.cons_append]

/-- If the answers depend on the question alone, every round has the answer to its
question. -/
theorem answer_of_mem_rounds
    {answers : (question : Question) → Answer question}
    {dialogue : Dialogue Question Answer α}
    {round : Round Question Answer}
    (member : round ∈ dialogue.rounds (fun question _ => (answers question, ())) ()) :
    round.answer = answers round.question := by
  induction dialogue with
  | done value => cases member
  | ask question next inductionHypothesis =>
      rcases List.mem_cons.mp member with rfl | isLater
      · rfl
      · exact inductionHypothesis _ isLater

/-! ## Questions -/

/-- Whatever the answers are, only certain questions are asked. -/
def AsksOnly (allowed : Question → Prop) : Dialogue Question Answer α → Prop
  | .done _ => True
  | .ask question next => allowed question ∧ ∀ answer, (next answer).AsksOnly allowed

theorem AsksOnly.bind
    {allowed : Question → Prop}
    {dialogue : Dialogue Question Answer α}
    {next : α → Dialogue Question Answer β}
    (first : dialogue.AsksOnly allowed)
    (second : ∀ value, (next value).AsksOnly allowed) :
    (dialogue.bind next).AsksOnly allowed := by
  induction dialogue with
  | done value => exact second value
  | ask question answered inductionHypothesis =>
      exact ⟨first.1, fun answer => inductionHypothesis answer (first.2 answer)⟩

/-! ## Paths -/

/-- With the answers of the rounds, the dialogue asks exactly their questions and then
has the value. -/
inductive Path :
    Dialogue Question Answer α → List (Round Question Answer) → α → Prop where
  | done (value : α) : Path (.done value) [] value
  | ask {question : Question} {next : Answer question → Dialogue Question Answer α}
      {answer : Answer question} {rounds : List (Round Question Answer)} {value : α}
      (rest : Path (next answer) rounds value) :
      Path (.ask question next) (⟨question, answer⟩ :: rounds) value

/-- A play follows a path. -/
theorem path_rounds
    (responder : Responder Question Answer σ)
    (dialogue : Dialogue Question Answer α)
    (state : σ) :
    Path dialogue (dialogue.rounds responder state)
      (dialogue.play responder state).value := by
  induction dialogue generalizing state with
  | done value => exact .done value
  | ask question next inductionHypothesis =>
      exact .ask (inductionHypothesis _ _)

theorem path_done_iff
    {value result : α}
    {rounds : List (Round Question Answer)} :
    Path (.done value) rounds result ↔ rounds = [] ∧ result = value := by
  constructor
  · rintro ⟨⟩
    exact ⟨rfl, rfl⟩
  · intro finished
    obtain ⟨rfl, rfl⟩ := finished
    exact .done result

theorem path_ask_iff
    {question : Question}
    {next : Answer question → Dialogue Question Answer α}
    {rounds : List (Round Question Answer)}
    {value : α} :
    Path (.ask question next) rounds value ↔
      ∃ answer later, rounds = ⟨question, answer⟩ :: later ∧ Path (next answer) later value := by
  constructor
  · rintro ⟨⟩
    exact ⟨_, _, rfl, by assumption⟩
  · intro answered
    obtain ⟨answer, later, rfl, rest⟩ := answered
    exact .ask rest

/-- A path of dialogues in sequence is one of the first and then one of the second. -/
theorem path_bind_iff
    {dialogue : Dialogue Question Answer α}
    {next : α → Dialogue Question Answer β}
    {rounds : List (Round Question Answer)}
    {result : β} :
    Path (dialogue.bind next) rounds result ↔
      ∃ first value second,
        rounds = first ++ second ∧ Path dialogue first value ∧
          Path (next value) second result := by
  induction dialogue generalizing rounds with
  | done value =>
      simp only [done_bind, path_done_iff]
      constructor
      · exact fun path => ⟨[], value, rounds, rfl, ⟨rfl, rfl⟩, path⟩
      · intro inSequence
        obtain ⟨_, _, second, rfl, ⟨rfl, rfl⟩, path⟩ := inSequence
        exact path
  | ask question answered inductionHypothesis =>
      simp only [ask_bind, path_ask_iff, inductionHypothesis]
      constructor
      · intro inSequence
        obtain ⟨answer, _, rfl, first, value, second, rfl, path, rest⟩ := inSequence
        exact ⟨⟨question, answer⟩ :: first, value, second, rfl,
          ⟨answer, first, rfl, path⟩, rest⟩
      · intro inSequence
        obtain ⟨_, value, second, rfl, ⟨answer, first, rfl, path⟩, rest⟩ := inSequence
        exact ⟨answer, first ++ second, rfl, first, value, second, rfl, path, rest⟩

/-- What follows a dialogue only matters for the values that it can come to. -/
theorem bind_congr_of_path
    {dialogue : Dialogue Question Answer α}
    {first second : α → Dialogue Question Answer β}
    (same : ∀ rounds value, Path dialogue rounds value → first value = second value) :
    dialogue.bind first = dialogue.bind second := by
  induction dialogue with
  | done value => exact same [] value (.done value)
  | ask question answered inductionHypothesis =>
      simp only [ask_bind]
      refine congrArg (Dialogue.ask question) (funext fun answer => ?_)
      exact inductionHypothesis answer fun rounds value path => same _ value (.ask path)

/-- One path of a dialogue is not the beginning of another one: what was answered first
decides how far it goes and to which value. -/
theorem Path.eq_of_prefix
    {dialogue : Dialogue Question Answer α}
    {first second all : List (Round Question Answer)}
    {firstValue secondValue : α}
    (firstPath : Path dialogue first firstValue)
    (secondPath : Path dialogue second secondValue)
    (firstBegins : first <+: all)
    (secondBegins : second <+: all) :
    first = second ∧ firstValue = secondValue := by
  induction firstPath generalizing second all with
  | done value =>
      obtain ⟨rfl, rfl⟩ := path_done_iff.mp secondPath
      exact ⟨rfl, rfl⟩
  | @ask question next answer rounds value rest inductionHypothesis =>
      obtain ⟨other, later, rfl, otherRest⟩ := path_ask_iff.mp secondPath
      obtain ⟨more, rfl⟩ := firstBegins
      obtain ⟨sameRound, laterBegins⟩ := List.cons_prefix_cons.mp secondBegins
      cases sameRound
      obtain ⟨rfl, rfl⟩ := inductionHypothesis otherRest (List.prefix_append _ _) laterBegins
      exact ⟨rfl, rfl⟩

/-- On a path, only questions that can be asked are asked. -/
theorem AsksOnly.allowed_of_path
    {allowed : Question → Prop}
    {dialogue : Dialogue Question Answer α}
    {rounds : List (Round Question Answer)}
    {value : α}
    (asksOnly : dialogue.AsksOnly allowed)
    (path : Path dialogue rounds value) :
    ∀ round ∈ rounds, allowed round.question := by
  induction path with
  | done value => exact nofun
  | ask rest inductionHypothesis =>
      exact List.forall_mem_cons.mpr ⟨asksOnly.1, inductionHypothesis (asksOnly.2 _)⟩

theorem AsksOnly.allowed_of_mem_rounds
    {allowed : Question → Prop}
    {dialogue : Dialogue Question Answer α}
    {responder : Responder Question Answer σ}
    {state : σ}
    {round : Round Question Answer}
    (asksOnly : dialogue.AsksOnly allowed)
    (member : round ∈ dialogue.rounds responder state) :
    allowed round.question :=
  asksOnly.allowed_of_path (path_rounds responder dialogue state) round member

/-! ## Dialogues in turn -/

/-- Dialogues are had one after the other: with the answers of the rounds, each asks its
questions and has its value. -/
inductive InTurn :
    List (Dialogue Question Answer α) → List (Round Question Answer) → List α → Prop where
  | done : InTurn [] [] []
  | next {dialogue : Dialogue Question Answer α} {rest : List (Dialogue Question Answer α)}
      {rounds later : List (Round Question Answer)} {value : α} {values : List α}
      (path : Path dialogue rounds value)
      (others : InTurn rest later values) :
      InTurn (dialogue :: rest) (rounds ++ later) (value :: values)

/-- Every value is that of one of the dialogues. -/
theorem InTurn.exists_path_of_mem
    {dialogues : List (Dialogue Question Answer α)}
    {rounds : List (Round Question Answer)}
    {values : List α}
    {value : α}
    (inTurn : InTurn dialogues rounds values)
    (member : value ∈ values) :
    ∃ dialogue ∈ dialogues, ∃ part, Path dialogue part value := by
  induction inTurn with
  | done => cases member
  | @next dialogue rest part later first values path others inductionHypothesis =>
      rcases List.mem_cons.mp member with rfl | isLater
      · exact ⟨dialogue, List.mem_cons_self, part, path⟩
      · obtain ⟨other, inRest, found⟩ := inductionHypothesis isLater
        exact ⟨other, List.mem_cons_of_mem dialogue inRest, found⟩

/-- The rounds come in parts: each dialogue has the part and the value at its place. -/
theorem InTurn.exists_parts
    {dialogues : List (Dialogue Question Answer α)}
    {rounds : List (Round Question Answer)}
    {values : List α}
    (inTurn : InTurn dialogues rounds values) :
    ∃ parts : List (List (Round Question Answer)),
      rounds = parts.flatten ∧ parts.length = dialogues.length ∧
        values.length = dialogues.length ∧
        ∀ (place : Nat) (dialogue : Dialogue Question Answer α)
          (part : List (Round Question Answer)),
          dialogues[place]? = some dialogue → parts[place]? = some part →
            ∃ value, values[place]? = some value ∧ Path dialogue part value := by
  induction inTurn with
  | done => exact ⟨[], rfl, rfl, rfl, nofun⟩
  | @next dialogue rest rounds later value values path others inductionHypothesis =>
      obtain ⟨parts, rfl, sameParts, sameValues, each⟩ := inductionHypothesis
      refine ⟨rounds :: parts, rfl, by simp [sameParts], by simp [sameValues], ?_⟩
      intro place other part isDialogue isPart
      cases place with
      | zero =>
          cases isDialogue
          cases isPart
          exact ⟨value, rfl, path⟩
      | succ place => exact each place other part isDialogue isPart

/-- To sum up the values of dialogues, a walk over a list has them in turn. -/
theorem inTurn_of_path
    {ι : Type}
    {walk : List ι → Dialogue Question Answer Nat}
    {body : ι → Dialogue Question Answer α}
    {count : α → Nat}
    (atEnd : walk [] = .done 0)
    (step : ∀ first rest, walk (first :: rest) =
      (body first).bind fun value => (walk rest).bind fun total => .done (count value + total))
    {items : List ι}
    {rounds : List (Round Question Answer)}
    {total : Nat}
    (path : Path (walk items) rounds total) :
    ∃ values, InTurn (items.map body) rounds values ∧ total = (values.map count).sum := by
  induction items generalizing rounds total with
  | nil =>
      rw [atEnd] at path
      obtain ⟨rfl, rfl⟩ := path_done_iff.mp path
      exact ⟨[], .done, rfl⟩
  | cons first rest inductionHypothesis =>
      rw [step] at path
      obtain ⟨ofFirst, value, others, rfl, pathFirst, pathOthers⟩ := path_bind_iff.mp path
      obtain ⟨later, restTotal, none, rfl, pathRest, finished⟩ := path_bind_iff.mp pathOthers
      obtain ⟨rfl, rfl⟩ := path_done_iff.mp finished
      obtain ⟨values, inTurn, rfl⟩ := inductionHypothesis pathRest
      rw [List.append_nil]
      exact ⟨value :: values, .next pathFirst inTurn, rfl⟩

end Rollout.Dialogue
