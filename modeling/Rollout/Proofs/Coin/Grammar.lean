import Mathlib.Algebra.Ring.Nat
import Rollout.Coin
import Rollout.Proofs.Occurrence
import Rollout.Proofs.Text.Parts
import Rollout.Proofs.Text.Unsigned

/-!
Contract: the grammar of coin lists.

Owns:
- denominations, and the parts that spell a coin;
- that a part spells at most one coin, with the value of all its digits as the amount;
- that exactly the texts are accepted whose trimmed parts are coins, and that the first
  other part is the fault.

Does not own: how coins are written.
-/

namespace Rollout.Coin

variable {part digits denom : List Char} {coin : Coin}

/-! ## Coins as they are spelled -/

/-- A denomination: an ASCII letter, then ASCII letters, digits and `/ : . _ -`. -/
inductive Denomination : List Char → Prop where
  | intro {first : Char} {rest : List Char}
      (letter : first.isAlpha)
      (others : ∀ character ∈ rest,
        character.isAlphanum ∨ character ∈ ['/', ':', '.', '_', '-']) :
      Denomination (first :: rest)

/-- A part is one or more ASCII digits with a denomination behind them. -/
structure Splits (part digits denom : List Char) : Prop where
  split : part = digits ++ denom
  someDigits : digits ≠ []
  allDigits : ∀ character ∈ digits, character.isDigit
  denomination : Denomination denom

/-- A part that is a coin: its digits, leading zeros or not, stand for a number of 128
bits. -/
def IsCoin (part : List Char) : Prop :=
  ∃ digits denom, Splits part digits denom ∧ Nat.ofDigitChars 10 digits 0 ≤ 2 ^ 128 - 1

/-- A part spells the coin that has the value of the digits and the denomination behind
them. -/
def Spells (part : List Char) (coin : Coin) : Prop :=
  ∃ digits, Splits part digits coin.denom.toList ∧
    coin.amount.val = Nat.ofDigitChars 10 digits 0

/-! ## Characters -/

private theorem isLetter_eq_isAlpha (character : Char) :
    isLetter character = character.isAlpha := by
  have lower : character.isLower = (decide ('a' ≤ character) && decide (character ≤ 'z')) := rfl
  have upper : character.isUpper = (decide ('A' ≤ character) && decide (character ≤ 'Z')) :=
    Bool.decide_and _ _
  rw [isLetter, ← lower, ← upper]
  exact Bool.or_comm _ _

theorem isDenomCharacter_iff {character : Char} :
    isDenomCharacter character = true ↔
      character.isAlphanum ∨ character ∈ ['/', ':', '.', '_', '-'] := by
  simp [isDenomCharacter, Char.isAlphanum, isLetter_eq_isAlpha, Text.isDigit_eq, or_assoc]

theorem isDenom_iff : isDenom denom = true ↔ Denomination denom := by
  cases denom with
  | nil => exact ⟨nofun, nofun⟩
  | cons first rest =>
      rw [isDenom, Bool.and_eq_true, List.all_eq_true, isLetter_eq_isAlpha]
      simp only [isDenomCharacter_iff]
      constructor
      · rintro ⟨letter, others⟩
        exact .intro letter others
      · rintro ⟨letter, others⟩
        exact ⟨letter, others⟩

private theorem isDigit_eq_false_of_isAlpha
    {character : Char}
    (letter : character.isAlpha) :
    character.isDigit = false := by
  rw [← isLetter_eq_isAlpha] at letter
  rw [← Text.isDigit_eq, ← Bool.not_eq_true]
  simp only [isLetter, Text.isDigit, Bool.or_eq_true, Bool.and_eq_true,
    decide_eq_true_iff] at letter ⊢
  rintro ⟨_, atMostNine⟩
  rcases letter with ⟨lower, _⟩ | ⟨upper, _⟩
  · exact absurd (Char.le_trans lower atMostNine) (by decide)
  · exact absurd (Char.le_trans upper atMostNine) (by decide)

/-! ## Parts -/

/-- A denomination begins with a letter, so it begins where the digits end. -/
theorem splits_iff :
    Splits part digits denom ↔
      digits = part.takeWhile Char.isDigit ∧ denom = part.dropWhile Char.isDigit ∧
        digits ≠ [] ∧ Denomination denom := by
  constructor
  · rintro ⟨rfl, someDigits, allDigits, denomination⟩
    rw [List.takeWhile_append_of_pos allDigits, List.dropWhile_append_of_pos allDigits]
    obtain ⟨letter, others⟩ := denomination
    have notDigit := isDigit_eq_false_of_isAlpha letter
    refine ⟨?_, ?_, someDigits, .intro letter others⟩
    · simp [notDigit]
    · simp [notDigit]
  · rintro ⟨rfl, rfl, someDigits, denomination⟩
    refine ⟨List.takeWhile_append_dropWhile.symm, someDigits, ?_, denomination⟩
    exact fun character member => List.mem_takeWhile_imp member

/-- A part is read as the coin that it spells. -/
theorem ofCharacters?_eq_some_iff : ofCharacters? part = some coin ↔ Spells part coin := by
  unfold ofCharacters? Spells
  simp only [splits_iff, ← isDenom_iff, ← Text.isDigit_eq, ← Text.digitsValue_eq_ofDigitChars,
    List.isEmpty_iff]
  constructor
  · intro read
    split_ifs at read with noDigits isDenom inRange
    cases read
    exact ⟨_, ⟨rfl, String.toList_ofList, noDigits, by rwa [String.toList_ofList]⟩, rfl⟩
  · rintro ⟨_, ⟨rfl, sameDenom, someDigits, isDenom⟩, sameAmount⟩
    rw [sameDenom] at isDenom
    rw [if_neg someDigits, if_pos isDenom, dif_pos (sameAmount ▸ coin.amount.isLt)]
    obtain ⟨amount, denom⟩ := coin
    simp only [Option.some.injEq, Coin.mk.injEq]
    exact ⟨Fin.ext sameAmount.symm, by rw [← sameDenom, String.ofList_toList]⟩

private theorem isCoin_iff : IsCoin part ↔ ∃ coin, Spells part coin := by
  constructor
  · rintro ⟨digits, denom, splits, inRange⟩
    have inBound : Nat.ofDigitChars 10 digits 0 < amountBound := by
      rw [amountBound]
      omega
    exact ⟨⟨⟨_, inBound⟩, String.ofList denom⟩, digits, by rwa [String.toList_ofList], rfl⟩
  · rintro ⟨coin, digits, splits, sameAmount⟩
    have inBound := coin.amount.isLt
    rw [sameAmount, amountBound] at inBound
    exact ⟨digits, _, splits, by omega⟩

private theorem ofCharacters?_eq_none_iff : ofCharacters? part = none ↔ ¬ IsCoin part := by
  rw [isCoin_iff]
  simp only [← ofCharacters?_eq_some_iff]
  cases ofCharacters? part <;> simp

/-! ## Lists of parts -/

theorem readParts_eq_ok_iff
    {parts : List (List Char)}
    {coins : List Coin} :
    readParts parts = .ok coins ↔ List.Forall₂ Spells (parts.map Text.trimBlanks) coins := by
  induction parts generalizing coins with
  | nil => simp [readParts, eq_comm]
  | cons part rest inductionHypothesis =>
      rw [readParts, List.map_cons, List.forall₂_cons_left_iff]
      simp only [← ofCharacters?_eq_some_iff, ← inductionHypothesis]
      cases ofCharacters? (Text.trimBlanks part) with
      | none => simp
      | some coin => cases readParts rest <;> simp [eq_comm]

/-- The fault of parts is the first that is not a coin, as it is when it is trimmed. -/
private theorem readParts_eq_error_iff
    {parts : List (List Char)}
    {fault : CoinFault} :
    readParts parts = .error fault ↔
      ∃ part, IsFirst (fun part => ¬ IsCoin part) (parts.map Text.trimBlanks) part ∧
        fault = ⟨String.ofList part⟩ := by
  induction parts with
  | nil => simp [readParts]
  | cons part rest inductionHypothesis =>
      rw [readParts, List.map_cons]
      simp only [isFirst_cons, ← ofCharacters?_eq_none_iff]
      cases ofCharacters? (Text.trimBlanks part) with
      | none => simp [eq_comm]
      | some coin =>
          simp only [reduceCtorEq, false_and, false_or, not_false_eq_true, true_and,
            ofCharacters?_eq_none_iff, ← inductionHypothesis]
          cases readParts rest <;> simp

private theorem exists_readParts_eq_ok_iff {parts : List (List Char)} :
    (∃ coins, readParts parts = .ok coins) ↔
      ∀ part ∈ parts.map Text.trimBlanks, IsCoin part := by
  constructor
  · rintro ⟨coins, read⟩
    by_contra notAll
    obtain ⟨part, first⟩ := exists_isFirst_not notAll
    have failed := readParts_eq_error_iff.mpr ⟨part, first, rfl⟩
    rw [read] at failed
    cases failed
  · intro allCoins
    cases read : readParts parts with
    | ok coins => exact ⟨coins, rfl⟩
    | error fault =>
        obtain ⟨part, first, _⟩ := readParts_eq_error_iff.mp read
        exact absurd (allCoins part first.mem) first.holds_item

/-! ## Texts -/

/-- A coin list is read by its grammar. Blank text is the empty list. Any other text is cut
at every comma, and the parts are trimmed. The text is accepted exactly if every trimmed part
is a coin; then the coins are those that the parts spell, one for each part in order.
Otherwise the first part that is not a coin is the fault. -/
theorem parseList_grammar (text : String) :
    ((∀ character ∈ text.toList, Text.isBlank character) → parseList text = .ok []) ∧
      (¬ (∀ character ∈ text.toList, Text.isBlank character) →
        ∃ parts,
          (∀ trimmed, List.Forall₂ Text.Trims (text.toList.splitOn ',') trimmed ↔
            trimmed = parts) ∧
          ((∃ coins, parseList text = .ok coins) ↔ ∀ part ∈ parts, IsCoin part) ∧
          (∀ coins, parseList text = .ok coins ↔ List.Forall₂ Spells parts coins) ∧
          ∀ fault, parseList text = .error fault ↔
            ∃ part, IsFirst (fun part => ¬ IsCoin part) parts part ∧
              fault = ⟨String.ofList part⟩) := by
  rw [← List.all_eq_true, ← Text.blank]
  constructor
  · intro blank
    rw [parseList, if_pos blank]
  · intro notBlank
    rw [parseList, if_neg notBlank, Text.splitCommas_eq_splitOn]
    exact ⟨(text.toList.splitOn ',').map Text.trimBlanks,
      fun trimmed => Text.forall₂_trims_iff, exists_readParts_eq_ok_iff,
      fun coins => readParts_eq_ok_iff, fun fault => readParts_eq_error_iff⟩

/-- The greatest amount is accepted, and the next number is not. -/
example :
    parseList " 340282366920938463463374607431768211455usei, 007factory/sei1/kUSD" =
        .ok [⟨340282366920938463463374607431768211455, "usei"⟩, ⟨7, "factory/sei1/kUSD"⟩] ∧
      parseList "1usei,340282366920938463463374607431768211456usei ,x" =
        .error ⟨"340282366920938463463374607431768211456usei"⟩ := by
  decide +kernel

end Rollout.Coin
