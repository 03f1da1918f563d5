import Rollout.Proofs.Text.Unsigned

/-!
Contract: the texts that are read as unsigned numbers.

Owns:
- the literals of numbers below a bound;
- that exactly the literals are read, as the number that they stand for.

Does not own: blank characters around a literal, and why another text is refused.
-/

namespace Rollout.Text

variable {bound value number : Nat} {characters : List Char}

/-- A literal of a number below a bound: one or more ASCII digits, leading zeros or not,
and before them one plus sign or nothing. -/
def IsLiteral (bound : Nat) (characters : List Char) (number : Nat) : Prop :=
  ∃ digits, (characters = digits ∨ characters = '+' :: digits) ∧ digits ≠ [] ∧
    (∀ digit ∈ digits, digit.isDigit) ∧ number = Nat.ofDigitChars 10 digits 0 ∧ number < bound

theorem IsLiteral.lt (literal : IsLiteral bound characters number) : number < bound := by
  obtain ⟨_, _, _, _, _, below⟩ := literal
  exact below

def continuedValue (value : Nat) (digits : List Char) : Nat :=
  digits.foldl (fun value digit => value * 10 + digitValue digit) value

private theorem le_continuedValue (value : Nat) (digits : List Char) :
    value ≤ continuedValue value digits := by
  induction digits generalizing value with
  | nil => exact Nat.le_refl value
  | cons digit rest inductionHypothesis =>
      have restGrows := inductionHypothesis (value * 10 + digitValue digit)
      show value ≤ continuedValue (value * 10 + digitValue digit) rest
      omega

/-- A number is continued by digits up to a number below the bound. Since it only grows on
the way, it is below the bound all along if it is so at the end. -/
private theorem continueUnsigned_eq_ok_iff (inRange : value < bound) :
    continueUnsigned bound value characters = .ok number ↔
      (∀ character ∈ characters, isDigit character) ∧
        number = continuedValue value characters ∧ number < bound := by
  induction characters generalizing value with
  | nil =>
      rw [continueUnsigned, Except.ok.injEq]
      constructor
      · intro same
        exact ⟨nofun, same.symm, same ▸ inRange⟩
      · exact fun read => read.2.1.symm
  | cons character rest inductionHypothesis =>
      rw [continueUnsigned, List.forall_mem_cons]
      have continued : continuedValue value (character :: rest) =
          continuedValue (value * 10 + digitValue character) rest := rfl
      have grows := le_continuedValue (value * 10 + digitValue character) rest
      by_cases digit : isDigit character
      · rw [if_pos digit, continued]
        by_cases within : value * 10 + digitValue character < bound
        · rw [if_pos within, inductionHypothesis within]
          simp [digit]
        · rw [if_neg within]
          constructor
          · exact nofun
          · rintro ⟨_, same, below⟩
            omega
      · rw [if_neg digit]
        exact ⟨nofun, fun read => absurd read.1.1 digit⟩

/-- A number is read from its literals and from no other text. -/
theorem readUnsigned_eq_ok_iff
    {text : String}
    (positive : 0 < bound) :
    readUnsigned bound text = .ok number ↔ IsLiteral bound text.toList number := by
  have unsigned : ∀ digits : List Char, continueUnsigned bound 0 digits = .ok number ↔
      (∀ digit ∈ digits, digit.isDigit) ∧ number = Nat.ofDigitChars 10 digits 0 ∧
        number < bound := by
    intro digits
    rw [continueUnsigned_eq_ok_iff positive, isDigit_eq, ← digitsValue_eq_ofDigitChars]
    rfl
  rw [readUnsigned]
  unfold IsLiteral
  generalize text.toList = characters
  split
  · simp
  · rename_i first rest
    rw [unsigned]
    constructor
    · rintro ⟨allDigits, same, below⟩
      exact ⟨first :: rest, .inr rfl, nofun, allDigits, same, below⟩
    · rintro ⟨digits, rfl | same, _, allDigits, value⟩
      · exact absurd (allDigits '+' List.mem_cons_self) (by decide)
      · cases same
        exact ⟨allDigits, value⟩
  · rename_i notEmpty notSigned
    rw [unsigned]
    constructor
    · rintro ⟨allDigits, same, below⟩
      exact ⟨characters, .inl rfl, notEmpty, allDigits, same, below⟩
    · rintro ⟨digits, rfl | rfl, someDigits, allDigits, value⟩
      · exact ⟨allDigits, value⟩
      · obtain ⟨first, rest, rfl⟩ := List.exists_cons_of_ne_nil someDigits
        exact absurd rfl (notSigned first rest)

end Rollout.Text
