import Mathlib.Data.List.Chain
import Rollout.Proofs.Placeholder
import Rollout.Template

/-!
Contract: the grammar of template texts.

Owns:
- the text of pieces, and the pieces that a text falls apart into;
- how a text is read up to its first slot and from the end of that slot on;
- that reading a text and writing its pieces are inverse to each other, so that exactly
  the texts that can be written are accepted.

Does not own: which fault a malformed text has.
-/

namespace Rollout

/-! ## Pieces that can be read back -/

namespace Piece

def isLiteral : Piece → Bool
  | .literal _ => true
  | .slot _ => false

/-- A piece that is read as it is written. A literal is not empty and does not open a
slot; the name in a slot does not close it. -/
inductive Plain : Piece → Prop where
  | literal {text : String}
      (nonempty : text ≠ "")
      (closed : ¬ ['$', '{'] <:+: text.toList) :
      Plain (.literal text)
  | slot {placeholder : Placeholder}
      (legible : placeholder.Legible)
      (closable : '}' ∉ placeholder.name.toList) :
      Plain (.slot placeholder)

end Piece

namespace Template

def written (pieces : List Piece) : String :=
  String.join (pieces.map Piece.text)

/-- Pieces as a text falls apart into them: each is read as it is written, and no two
literals stand side by side. -/
structure Canonical (pieces : List Piece) : Prop where
  plain : ∀ piece ∈ pieces, piece.Plain
  apart : pieces.IsChain fun left right => ¬ (left.isLiteral ∧ right.isLiteral)

variable {characters literal inside after rest collected : List Char} {template : String}
  {found : List Piece}

/-! ## The text of pieces -/

theorem slotText_toList (text : String) :
    (slotText text).toList = '$' :: '{' :: (text.toList ++ ['}']) := by
  simp [slotText]

theorem written_nil : (written []).toList = [] :=
  rfl

theorem written_cons (piece : Piece) (rest : List Piece) :
    (written (piece :: rest)).toList = piece.text.toList ++ (written rest).toList := by
  simp [written]

theorem written_slot_cons (placeholder : Placeholder) (rest : List Piece) :
    (written (.slot placeholder :: rest)).toList =
      '$' :: '{' :: (placeholder.inside.toList ++ '}' :: (written rest).toList) := by
  rw [written_cons, Piece.text, Placeholder.text, slotText_toList]
  simp

/-- The name in a slot closes the slot exactly if the inside of the slot does. -/
theorem brace_mem_inside_iff (placeholder : Placeholder) :
    '}' ∈ placeholder.inside.toList ↔ '}' ∈ placeholder.name.toList := by
  cases placeholder with
  | address resource =>
      rw [Placeholder.inside_address, List.mem_append]
      simp [Placeholder.name]
  | codeId resource =>
      rw [Placeholder.inside_codeId, List.mem_append]
      simp [Placeholder.name]
  | var key =>
      rw [Placeholder.inside_var, List.mem_append]
      simp [Placeholder.name, Placeholder.variableMark]

/-! ## The opening of a slot -/

theorem opensSlot_iff : opensSlot characters = true ↔ ['$', '{'] <:+: characters := by
  induction characters using opensSlot.induct with
  | case1 => simp [opensSlot]
  | case2 rest =>
      have opening : ['$', '{'] <:+: '$' :: '{' :: rest := (List.prefix_append _ rest).isInfix
      simp [opensSlot, opening]
  | case3 character rest noOpening inductionHypothesis =>
      have notHere : ¬ ['$', '{'] <+: character :: rest := by
        rintro ⟨others, split⟩
        obtain ⟨rfl, rfl⟩ := List.cons.inj split
        exact noOpening others rfl rfl
      rw [opensSlot.eq_3 character rest noOpening, inductionHypothesis, List.infix_cons_iff]
      simp [notHere]

/-- A text that opens a slot has a first place where it does. -/
private theorem exists_first_opening (opens : opensSlot characters = true) :
    ∃ literal after, characters = literal ++ '$' :: '{' :: after ∧
      opensSlot literal = false := by
  induction characters using opensSlot.induct with
  | case1 => cases opens
  | case2 rest => exact ⟨[], rest, rfl, rfl⟩
  | case3 character rest noOpening inductionHypothesis =>
      rw [opensSlot.eq_3 character rest noOpening] at opens
      obtain ⟨literal, after, rfl, closed⟩ := inductionHypothesis opens
      refine ⟨character :: literal, after, rfl, ?_⟩
      rw [opensSlot.eq_3, closed]
      rintro others rfl rfl
      exact noOpening _ rfl rfl

/-! ## Reading -/

theorem piecesAfterLiteral_closed (closed : opensSlot literal = false) :
    piecesAfterLiteral template collected literal =
      .ok (Piece.ofCollected (literal.reverse ++ collected)) := by
  induction literal using opensSlot.induct generalizing collected with
  | case1 => rw [piecesAfterLiteral, List.reverse_nil, List.nil_append]
  | case2 rest => cases closed
  | case3 character rest noOpening inductionHypothesis =>
      rw [opensSlot.eq_3 character rest noOpening] at closed
      rw [piecesAfterLiteral.eq_3 _ _ _ _ noOpening, inductionHypothesis closed,
        List.reverse_cons, List.append_assoc]
      rfl

private theorem piecesAfterLiteral_opening (closed : opensSlot literal = false) :
    piecesAfterLiteral template collected (literal ++ '$' :: '{' :: after) =
      match piecesAfterInside template [] after with
      | .ok pieces => .ok (Piece.ofCollected (literal.reverse ++ collected) ++ pieces)
      | .error fault => .error fault := by
  induction literal using opensSlot.induct generalizing collected with
  | case1 =>
      cases opened : piecesAfterInside template [] after <;> simp [piecesAfterLiteral, opened]
  | case2 rest => cases closed
  | case3 character rest noOpening inductionHypothesis =>
      rw [opensSlot.eq_3 character rest noOpening] at closed
      -- A dollar sign at the end of the literal does not open the slot behind it.
      have stillNoOpening : ∀ others, character = '$' →
          rest ++ '$' :: '{' :: after = '{' :: others → False := by
        intro others dollar split
        cases rest with
        | nil => cases split
        | cons first others =>
            obtain ⟨rfl, _⟩ := List.cons.inj split
            exact noOpening others dollar rfl
      rw [List.cons_append, piecesAfterLiteral.eq_3 _ _ _ _ stillNoOpening,
        inductionHypothesis closed, List.reverse_cons, List.append_assoc]
      rfl

private theorem piecesAfterInside_unterminated (unclosed : '}' ∉ after) :
    piecesAfterInside template collected after = .error (.unterminated template) := by
  induction after generalizing collected with
  | nil => rw [piecesAfterInside]
  | cons character rest inductionHypothesis =>
      rw [List.mem_cons, not_or] at unclosed
      rw [piecesAfterInside.eq_3 _ _ _ _ (Ne.symm unclosed.1), inductionHypothesis unclosed.2]

private theorem piecesAfterInside_closing (unclosed : '}' ∉ inside) :
    piecesAfterInside template collected (inside ++ '}' :: rest) =
      match Placeholder.ofInside (collected.reverse ++ inside) with
      | .error fault => .error fault
      | .ok placeholder =>
          match piecesAfterLiteral template [] rest with
          | .ok pieces => .ok (.slot placeholder :: pieces)
          | .error fault => .error fault := by
  induction inside generalizing collected with
  | nil =>
      rw [List.nil_append, List.append_nil]
      cases read : Placeholder.ofInside collected.reverse with
      | error fault => simp [piecesAfterInside, read]
      | ok placeholder =>
          cases others : piecesAfterLiteral template [] rest <;>
            simp [piecesAfterInside, read, others]
  | cons character others inductionHypothesis =>
      rw [List.mem_cons, not_or] at unclosed
      rw [List.cons_append, piecesAfterInside.eq_3 _ _ _ _ (Ne.symm unclosed.1),
        inductionHypothesis unclosed.2, List.reverse_cons, List.append_assoc]
      rfl

/-- A text with a slot is read as the literal before it, the placeholder in it and the
pieces of what follows. -/
private theorem piecesAfterLiteral_slot
    (closed : opensSlot literal = false)
    (unclosed : '}' ∉ inside) :
    piecesAfterLiteral template [] (literal ++ '$' :: '{' :: (inside ++ '}' :: rest)) =
      match Placeholder.ofInside inside with
      | .error fault => .error fault
      | .ok placeholder =>
          match piecesAfterLiteral template [] rest with
          | .ok pieces =>
              .ok (Piece.ofCollected literal.reverse ++ .slot placeholder :: pieces)
          | .error fault => .error fault := by
  rw [piecesAfterLiteral_opening closed, piecesAfterInside_closing unclosed,
    List.reverse_nil, List.nil_append, List.append_nil]
  cases Placeholder.ofInside inside with
  | error fault => rfl
  | ok placeholder => cases piecesAfterLiteral template [] rest <;> rfl

theorem ofCollected_reverse (characters : List Char) :
    Piece.ofCollected characters.reverse =
      if characters = [] then [] else [.literal (String.ofList characters)] := by
  by_cases none : characters = []
  · rw [none]
    rfl
  · rw [if_neg none]
    unfold Piece.ofCollected
    split
    · rename_i empty
      exact absurd (List.reverse_eq_nil_iff.mp empty) none
    · rw [List.reverse_reverse]

/-! ## Reading what is written -/

theorem Canonical.tail
    {piece : Piece}
    (canonical : Canonical (piece :: found)) :
    Canonical found :=
  ⟨fun other member => canonical.plain other (List.mem_cons_of_mem piece member),
    canonical.apart.tail⟩

/-- The text of a literal does not open a slot. -/
theorem Canonical.closed
    {text : String}
    (canonical : Canonical (.literal text :: found)) :
    text.toList ≠ [] ∧ opensSlot text.toList = false := by
  cases canonical.plain (.literal text) (by simp) with
  | literal nonempty closed =>
      rw [← opensSlot_iff, Bool.not_eq_true] at closed
      exact ⟨by simpa using nonempty, closed⟩

theorem Canonical.slot
    {placeholder : Placeholder}
    (canonical : Canonical (.slot placeholder :: found)) :
    Placeholder.ofInside placeholder.inside.toList = .ok placeholder ∧
      '}' ∉ placeholder.inside.toList := by
  cases canonical.plain (.slot placeholder) (by simp) with
  | slot legible closable =>
      exact ⟨Placeholder.ofInside_inside legible,
        fun member => closable ((brace_mem_inside_iff placeholder).mp member)⟩

/-- Canonical pieces are read back from their text. A literal is read together with the
slot behind it, so the induction takes two pieces where there are two. -/
private theorem piecesAfterLiteral_written : ∀ found : List Piece, Canonical found →
    piecesAfterLiteral template [] (written found).toList = .ok found
  | [], _ => by
      rw [written_nil, piecesAfterLiteral]
      rfl
  | [.literal text], canonical => by
      obtain ⟨nonempty, closed⟩ := canonical.closed
      have only : (written [.literal text]).toList = text.toList := by
        rw [written_cons, written_nil, List.append_nil]
        rfl
      rw [only, piecesAfterLiteral_closed closed, List.append_nil, ofCollected_reverse,
        if_neg nonempty, String.ofList_toList]
  | .literal text :: .literal other :: rest, canonical => by
      have apart := (List.isChain_cons_cons.mp canonical.apart).1
      exact absurd ⟨rfl, rfl⟩ apart
  | .literal text :: .slot placeholder :: rest, canonical => by
      obtain ⟨nonempty, closed⟩ := canonical.closed
      obtain ⟨read, unclosed⟩ := canonical.tail.slot
      have others := piecesAfterLiteral_written rest canonical.tail.tail
      rw [written_cons, written_slot_cons, Piece.text, piecesAfterLiteral_slot closed unclosed,
        read, others, ofCollected_reverse, if_neg nonempty, String.ofList_toList]
      rfl
  | .slot placeholder :: rest, canonical => by
      obtain ⟨read, unclosed⟩ := canonical.slot
      have others := piecesAfterLiteral_written rest canonical.tail
      have notOpening : opensSlot [] = false := rfl
      have behindNothing : (written (.slot placeholder :: rest)).toList =
          [] ++ '$' :: '{' :: (placeholder.inside.toList ++ '}' :: (written rest).toList) :=
        written_slot_cons placeholder rest
      rw [behindNothing, piecesAfterLiteral_slot notOpening unclosed, read, others]
      rfl

/-! ## Writing what is read -/

private theorem written_ofCollected_append (characters : List Char) (rest : List Piece) :
    (written (Piece.ofCollected characters.reverse ++ rest)).toList =
      characters ++ (written rest).toList := by
  rw [ofCollected_reverse]
  split_ifs with none
  · rw [none]
    rfl
  · rw [List.singleton_append, written_cons, Piece.text, String.toList_ofList]

private theorem Canonical.cons_slot
    {placeholder : Placeholder}
    (canonical : Canonical found)
    (legible : placeholder.Legible)
    (unclosed : '}' ∉ placeholder.inside.toList) :
    Canonical (.slot placeholder :: found) := by
  constructor
  · have plain : (Piece.slot placeholder).Plain :=
      .slot legible fun member => unclosed ((brace_mem_inside_iff placeholder).mpr member)
    exact List.forall_mem_cons.mpr ⟨plain, canonical.plain⟩
  · refine List.isChain_cons.mpr ⟨?_, canonical.apart⟩
    rintro next _ ⟨isLiteral, _⟩
    cases isLiteral

private theorem plain_literal
    (nonempty : characters ≠ [])
    (closed : opensSlot characters = false) :
    (Piece.literal (String.ofList characters)).Plain := by
  apply Piece.Plain.literal
  · simpa [← String.toList_eq_nil_iff] using nonempty
  · rw [String.toList_ofList, ← opensSlot_iff, closed]
    exact Bool.false_ne_true

/-- Whatever stands in front of a slot may stand there as a literal, if it is not
empty. -/
private theorem Canonical.ofCollected_append
    {placeholder : Placeholder}
    (canonical : Canonical (.slot placeholder :: found))
    (closed : opensSlot literal = false) :
    Canonical (Piece.ofCollected literal.reverse ++ .slot placeholder :: found) := by
  rw [ofCollected_reverse]
  split_ifs with none
  · exact canonical
  · constructor
    · exact List.forall_mem_cons.mpr ⟨plain_literal none closed, canonical.plain⟩
    · refine List.isChain_cons_cons.mpr ⟨?_, canonical.apart⟩
      rintro ⟨_, isLiteral⟩
      cases isLiteral

private theorem canonical_ofCollected (closed : opensSlot literal = false) :
    Canonical (Piece.ofCollected literal.reverse) := by
  rw [ofCollected_reverse]
  split_ifs with none
  · exact ⟨by simp, .nil⟩
  · exact ⟨List.forall_mem_singleton.mpr (plain_literal none closed), .singleton _⟩

/-- The pieces that are read are canonical and give back the text. Each slot leaves a
shorter text to read, so the induction is on the length. -/
private theorem canonical_of_piecesAfterLiteral
    (read : piecesAfterLiteral template [] characters = .ok found) :
    Canonical found ∧ (written found).toList = characters := by
  induction length : characters.length using Nat.strong_induction_on
    generalizing characters found with
  | _ length inductionHypothesis =>
  subst length
  cases opens : opensSlot characters with
  | false =>
      rw [piecesAfterLiteral_closed opens, List.append_nil] at read
      cases read
      have text := written_ofCollected_append characters []
      rw [List.append_nil, written_nil, List.append_nil] at text
      exact ⟨canonical_ofCollected opens, text⟩
  | true =>
      obtain ⟨literal, after, rfl, closed⟩ := exists_first_opening opens
      by_cases closes : '}' ∈ after
      · obtain ⟨inside, rest, rfl, unclosed⟩ := List.eq_append_cons_of_mem closes
        rw [piecesAfterLiteral_slot closed unclosed] at read
        cases readInside : Placeholder.ofInside inside with
        | error fault =>
            rw [readInside] at read
            cases read
        | ok placeholder =>
            obtain ⟨legible, rfl⟩ := Placeholder.ofInside_eq_ok_iff.mp readInside
            cases readRest : piecesAfterLiteral template [] rest with
            | error fault =>
                rw [readInside, readRest] at read
                cases read
            | ok pieces =>
                rw [readInside, readRest] at read
                cases read
                have shorter : rest.length < (literal ++
                    '$' :: '{' :: (placeholder.inside.toList ++ '}' :: rest)).length := by
                  simp
                  omega
                obtain ⟨canonical, text⟩ := inductionHypothesis _ shorter readRest rfl
                refine ⟨(canonical.cons_slot legible unclosed).ofCollected_append closed, ?_⟩
                rw [written_ofCollected_append, written_slot_cons, text]
      · rw [piecesAfterLiteral_opening closed, piecesAfterInside_unterminated closes] at read
        cases read

/-! ## The grammar -/

theorem pieces_eq_ok_iff {text : String} :
    pieces text = .ok found ↔ Canonical found ∧ written found = text := by
  constructor
  · intro read
    obtain ⟨canonical, same⟩ := canonical_of_piecesAfterLiteral read
    exact ⟨canonical, String.toList_inj.mp same⟩
  · rintro ⟨canonical, rfl⟩
    exact piecesAfterLiteral_written found canonical

/-- Reading and writing are inverse to each other: the pieces of a text are the canonical
pieces that give this text when they are written. So the texts whose placeholders can be
listed are those that canonical pieces give, the placeholders are those in the slots, and
every other text has a fault. -/
theorem pieces_inverse_written (text : String) :
    (∀ found, pieces text = .ok found ↔ Canonical found ∧ written found = text) ∧
      (∀ placeholders, placeholdersOfText text = .ok placeholders ↔
        ∃ found, Canonical found ∧ written found = text ∧
          placeholders = found.filterMap Piece.placeholder?) ∧
      ((∃ fault, placeholdersOfText text = .error fault) ↔
        ¬ ∃ found, Canonical found ∧ written found = text) := by
  refine ⟨fun found => pieces_eq_ok_iff, ?_, ?_⟩
  · intro placeholders
    simp only [← and_assoc, ← pieces_eq_ok_iff]
    unfold placeholdersOfText
    cases pieces text <;> simp [eq_comm]
  · simp only [← pieces_eq_ok_iff]
    unfold placeholdersOfText
    cases pieces text <;> simp

end Template

end Rollout
