import Rollout.Text.Unsigned

/-!
Contract: the decimal digits that a number is written with.

Owns: that they are digits without a leading zero, and that their value is the number.

Does not own: reading a text that may hold anything else.
-/

namespace Rollout.Text

theorem isDigit_eq : isDigit = Char.isDigit :=
  rfl

theorem isDigit_of_mem_toDigits
    {number : Nat}
    {digit : Char}
    (member : digit ∈ Nat.toDigits 10 number) :
    isDigit digit = true :=
  Nat.isDigit_of_mem_toDigits (by decide) (by decide) member

theorem digitsValue_eq_ofDigitChars (digits : List Char) :
    digitsValue digits = Nat.ofDigitChars 10 digits 0 := by
  rw [digitsValue, Nat.ofDigitChars_eq_foldl]
  simp only [Nat.mul_comm, digitValue]

/-- The digits of a number have its value. -/
theorem digitsValue_toDigits (number : Nat) :
    digitsValue (Nat.toDigits 10 number) = number := by
  rw [digitsValue_eq_ofDigitChars, Nat.ofDigitChars_ten_toDigits]

private theorem digitChar_ne_zero : ∀ digit < 10, 0 < digit → digit.digitChar ≠ '0' := by
  decide

/-- Only zero is written with a zero in front. -/
theorem head?_toDigits_ne_zero
    {number : Nat}
    (positive : 0 < number) :
    (Nat.toDigits 10 number).head? ≠ some '0' := by
  induction number using Nat.strongRecOn with
  | ind number inductionHypothesis =>
      rw [Nat.toDigits_eq_if (by decide)]
      split
      · rename_i oneDigit
        simpa using digitChar_ne_zero number oneDigit positive
      · have shorter := inductionHypothesis (number / 10) (by omega) (by omega)
        have someDigits : Nat.toDigits 10 (number / 10) ≠ [] := Nat.toDigits_ne_nil
        obtain ⟨first, others, split⟩ := List.exists_cons_of_ne_nil someDigits
        rw [split] at shorter ⊢
        exact shorter

end Rollout.Text
