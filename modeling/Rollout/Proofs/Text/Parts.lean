import Mathlib.Data.List.DropRight
import Mathlib.Data.List.Forall2
import Rollout.Text.Blank
import Rollout.Text.Commas

/-!
Contract: the trimmed parts of a text between commas.

Owns:
- the splitting at every comma;
- what is left of a part without the blank characters around it, and that nothing else is.

Does not own: what the parts stand for.
-/

namespace Rollout.Text

variable {part trimmed : List Char}

/-! ## Splitting -/

theorem splitCommas_eq_splitOn (characters : List Char) :
    splitCommas characters = characters.splitOn ',' := by
  induction characters using splitCommas.induct with
  | case1 => rfl
  | case2 rest inductionHypothesis =>
      rw [splitCommas, inductionHypothesis, List.splitOn, List.splitOn,
        List.splitOnP_cons_eq_if_modifyHead, if_pos (by decide)]
  | case3 character rest notComma nothing inductionHypothesis =>
      rw [nothing] at inductionHypothesis
      exact absurd inductionHypothesis.symm (List.splitOnP_ne_nil _ _)
  | case4 character rest notComma part parts split inductionHypothesis =>
      rw [split] at inductionHypothesis
      rw [splitCommas.eq_3 _ _ notComma, split, List.splitOn,
        List.splitOnP_cons_eq_if_modifyHead, if_neg (by simpa using notComma), ← List.splitOn,
        ← inductionHypothesis, List.modifyHead_cons]

/-! ## Trimming -/

/-- A part without the blank characters around it: it neither starts nor ends with one, and
nothing else was taken away. -/
structure Trims (part trimmed : List Char) : Prop where
  around : ∃ before after, part = before ++ trimmed ++ after ∧
    (∀ character ∈ before, isBlank character) ∧ ∀ character ∈ after, isBlank character
  starts : ∀ character ∈ trimmed.head?, isBlank character = false
  ends : ∀ character ∈ trimmed.getLast?, isBlank character = false

private theorem trimBlanks_eq_rdropWhile (part : List Char) :
    trimBlanks part = (part.dropWhile isBlank).rdropWhile isBlank :=
  rfl

private theorem trims_trimBlanks (part : List Char) : Trims part (trimBlanks part) := by
  rw [trimBlanks_eq_rdropWhile]
  constructor
  · refine ⟨part.takeWhile isBlank, (part.dropWhile isBlank).rtakeWhile isBlank, ?_, ?_, ?_⟩
    · rw [List.append_assoc, List.rdropWhile_append_rtakeWhile, List.takeWhile_append_dropWhile]
    · exact fun character member => List.mem_takeWhile_imp member
    · exact fun character member => List.mem_rtakeWhile_imp member
  · intro character first
    obtain ⟨after, split⟩ := List.rdropWhile_prefix isBlank (l := part.dropWhile isBlank)
    have sameFirst : (part.dropWhile isBlank).head? = some character := by
      rw [← split, List.head?_append, Option.mem_def.mp first, Option.some_or]
    have notBlank := List.head?_dropWhile_not isBlank part
    rw [sameFirst] at notBlank
    exact notBlank
  · intro character last
    obtain ⟨nonempty, rfl⟩ := List.mem_getLast?_eq_getLast last
    simpa using List.rdropWhile_last_not isBlank _ nonempty

private theorem dropWhile_blanks_append
    {blanks others : List Char}
    (allBlank : ∀ character ∈ blanks, isBlank character)
    (starts : ∀ character ∈ others.head?, isBlank character = false) :
    (blanks ++ others).dropWhile isBlank = others := by
  rw [List.dropWhile_append_of_pos allBlank]
  cases others with
  | nil => rfl
  | cons first rest =>
      have notBlank := starts first rfl
      exact List.dropWhile_cons_of_neg (by simp [notBlank])

/-- What is left of a part is determined by the part. -/
theorem trims_iff : Trims part trimmed ↔ trimmed = trimBlanks part := by
  constructor
  · rintro ⟨⟨before, after, rfl, blankBefore, blankAfter⟩, starts, ends⟩
    by_cases empty : trimmed = []
    · rw [empty, List.append_nil, trimBlanks_eq_rdropWhile, List.dropWhile_eq_nil_iff.mpr,
        List.rdropWhile_nil]
      intro character member
      rcases List.mem_append.mp member with inBefore | inAfter
      · exact blankBefore character inBefore
      · exact blankAfter character inAfter
    · have fromStart : (before ++ trimmed ++ after).dropWhile isBlank = trimmed ++ after := by
        rw [List.append_assoc]
        apply dropWhile_blanks_append blankBefore
        rwa [List.head?_append_of_ne_nil _ empty]
      have fromEnd : (after.reverse ++ trimmed.reverse).dropWhile isBlank = trimmed.reverse := by
        apply dropWhile_blanks_append
        · simpa using blankAfter
        · rwa [List.head?_reverse]
      rw [trimBlanks, fromStart, List.reverse_append, fromEnd, List.reverse_reverse]
  · rintro rfl
    exact trims_trimBlanks part

/-- The trimmed parts of a text are determined by the text. -/
theorem forall₂_trims_iff {parts trimmedParts : List (List Char)} :
    List.Forall₂ Trims parts trimmedParts ↔ trimmedParts = parts.map trimBlanks := by
  induction parts generalizing trimmedParts with
  | nil => simp
  | cons part rest inductionHypothesis =>
      simp only [List.forall₂_cons_left_iff, trims_iff, inductionHypothesis, List.map_cons]
      simp

end Rollout.Text
