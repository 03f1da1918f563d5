import Mathlib.Data.Set.Function
import Rollout.Proofs.Coin.Grammar

/-!
Contract: coin lists that are written and read again.

Owns:
- the text of a coin: it spells the coin, with no comma and no blank character in it;
- that coins with denominations are read back from their text, so that no two lists have
  one text;
- that a text which was written for coins that were read is not changed by reading and
  writing it once more.

Does not own: the texts that are read without having been written.
-/

namespace Rollout.Coin

variable {coin : Coin} {coins : List Coin} {part : List Char}

/-- Coins that can be read from a text: each is of a denomination. -/
def Denominated (coins : List Coin) : Prop :=
  ∀ coin ∈ coins, Denomination coin.denom.toList

def rewritten (text : String) : Except CoinFault String :=
  (parseList text).map listText

/-! ## The text of a coin -/

private theorem toList_text (coin : Coin) :
    coin.text.toList = Nat.toDigits 10 coin.amount.val ++ coin.denom.toList := by
  rw [text, String.toList_append, String.toList_ofList]

/-- A coin is spelled by its own text. -/
theorem spells_text (denomination : Denomination coin.denom.toList) :
    Spells coin.text.toList coin := by
  refine ⟨Nat.toDigits 10 coin.amount.val, ?_, ?_⟩
  · exact ⟨toList_text coin, Nat.toDigits_ne_nil,
      fun _ member => Text.isDigit_of_mem_toDigits member, denomination⟩
  · rw [Nat.ofDigitChars_ten_toDigits]

/-- Digits and denominations are of the characters that may stand in a denomination. -/
private theorem isDenomCharacter_of_spells
    (spells : Spells part coin)
    {character : Char}
    (member : character ∈ part) :
    isDenomCharacter character = true := by
  obtain ⟨digits, ⟨rfl, _, allDigits, denomination⟩, _⟩ := spells
  rcases List.mem_append.mp member with inDigits | inDenom
  · simp [isDenomCharacter, Text.isDigit_eq, allDigits character inDigits]
  · generalize coin.denom.toList = denom at denomination inDenom
    obtain ⟨letter, others⟩ := denomination
    rw [isDenomCharacter_iff]
    rcases List.mem_cons.mp inDenom with rfl | inRest
    · left
      simp [Char.isAlphanum, letter]
    · exact others character inRest

/-- No blank character may stand in a denomination. -/
private theorem isBlank_eq_false_of_isDenomCharacter
    {character : Char}
    (allowed : isDenomCharacter character = true) :
    Text.isBlank character = false := by
  -- Both are stated by code points, which leaves a comparison of ranges.
  have point_le (lower upper : Char) : (lower ≤ upper) = (lower.toNat ≤ upper.toNat) := rfl
  rw [← Bool.not_eq_true]
  simp only [isDenomCharacter, isLetter, Text.isDigit, Text.isBlank, Bool.or_eq_true,
    Bool.and_eq_true, decide_eq_true_iff, beq_iff_eq, point_le, ← Char.toNat_inj,
    Char.reduceToNat] at allowed ⊢
  omega

private theorem trimBlanks_of_spells (spells : Spells part coin) : Text.trimBlanks part = part := by
  have noBlank : ∀ character ∈ part, Text.isBlank character = false := fun _ member =>
    isBlank_eq_false_of_isDenomCharacter (isDenomCharacter_of_spells spells member)
  symm
  apply Text.trims_iff.mp
  refine ⟨⟨[], [], by simp, nofun, nofun⟩, ?_, ?_⟩
  · exact fun character first => noBlank character (List.mem_of_mem_head? first)
  · exact fun character last => noBlank character (List.mem_of_mem_getLast? last)

private theorem comma_notMem_of_spells (spells : Spells part coin) : ',' ∉ part := by
  intro member
  have allowed := isDenomCharacter_of_spells spells member
  revert allowed
  decide

/-! ## The text of a list -/

private theorem toList_listText (coins : List Coin) :
    (listText coins).toList = [','].intercalate (coins.map fun coin => coin.text.toList) := by
  rw [listText, String.toList_intercalate, List.map_map]
  rfl

/-- The text of some coins begins with a digit, so it is not blank. -/
private theorem blank_listText (someCoins : coins ≠ []) : Text.blank (listText coins) = false := by
  obtain ⟨first, rest, rfl⟩ := List.exists_cons_of_ne_nil someCoins
  have someDigits : Nat.toDigits 10 first.amount.val ≠ [] := Nat.toDigits_ne_nil
  obtain ⟨digit, digits, split⟩ := List.exists_cons_of_ne_nil someDigits
  have member : digit ∈ Nat.toDigits 10 first.amount.val := by
    rw [split]
    exact List.mem_cons_self
  have notBlank : Text.isBlank digit = false := by
    apply isBlank_eq_false_of_isDenomCharacter
    simp [isDenomCharacter, Text.isDigit_of_mem_toDigits member]
  rw [Text.blank, toList_listText, List.map_cons, toList_text, split, List.cons_append,
    List.intercalate_cons_cons_left, List.all_cons, notBlank, Bool.false_and]

/-- Coins with denominations are read back from what is written for them. -/
theorem parseList_listText (denominated : Denominated coins) :
    parseList (listText coins) = .ok coins := by
  by_cases none : coins = []
  · subst none
    decide +kernel
  · have spelled : ∀ coin ∈ coins, Spells coin.text.toList coin := fun coin member =>
      spells_text (denominated coin member)
    have parts : (listText coins).toList.splitOn ',' =
        coins.map fun coin => coin.text.toList := by
      rw [toList_listText]
      apply List.splitOn_intercalate
      · intro part member
        obtain ⟨coin, isCoin, rfl⟩ := List.mem_map.mp member
        exact comma_notMem_of_spells (spelled coin isCoin)
      · simpa using none
    rw [parseList, blank_listText none, Text.splitCommas_eq_splitOn, parts, if_neg (by decide),
      readParts_eq_ok_iff, List.map_map, List.forall₂_map_left_iff, List.forall₂_same]
    intro coin member
    show Spells (Text.trimBlanks coin.text.toList) coin
    rw [trimBlanks_of_spells (spelled coin member)]
    exact spelled coin member

private theorem denominated_of_spelled
    {parts : List (List Char)}
    (spelled : List.Forall₂ Spells parts coins) :
    Denominated coins := by
  induction spelled with
  | nil => exact nofun
  | cons first _ inductionHypothesis =>
      obtain ⟨_, splits, _⟩ := first
      exact List.forall_mem_cons.mpr ⟨splits.denomination, inductionHypothesis⟩

/-- What is read is of denominations. -/
private theorem denominated_of_parseList
    {text : String}
    (read : parseList text = .ok coins) :
    Denominated coins := by
  unfold parseList at read
  by_cases blank : Text.blank text
  · rw [if_pos blank] at read
    cases read
    exact List.forall_mem_nil _
  · rw [if_neg blank] at read
    exact denominated_of_spelled (readParts_eq_ok_iff.mp read)

/-- Writing and reading coin lists undo each other. Coins with denominations are read back
from their text, which no other such list has. From whatever text coins were read, the text
that is written for them stands for the same coins, and to read and write it once more
leaves it as it is. -/
theorem parseList_inverse_listText :
    (∀ coins, Denominated coins → parseList (listText coins) = .ok coins) ∧
      Set.InjOn listText {coins | Denominated coins} ∧
      ∀ text coins, parseList text = .ok coins →
        parseList (listText coins) = .ok coins ∧
          rewritten (listText coins) = .ok (listText coins) := by
  refine ⟨fun coins denominated => parseList_listText denominated, ?_, ?_⟩
  · intro left leftDenominated right rightDenominated sameText
    have readLeft := parseList_listText leftDenominated
    rw [sameText, parseList_listText rightDenominated] at readLeft
    exact (Except.ok.inj readLeft).symm
  · intro text coins read
    have readAgain : parseList (listText coins) = .ok coins :=
      parseList_listText (denominated_of_parseList read)
    refine ⟨readAgain, ?_⟩
    rw [rewritten, readAgain]
    rfl

def extremeCoins : List Coin :=
  [⟨340282366920938463463374607431768211455, "factory/sei1/kUSD"⟩, ⟨0, "usei"⟩]

/-- The text of these coins with blank characters and leading zeros in it. -/
def looseText : String :=
  " 340282366920938463463374607431768211455factory/sei1/kUSD,\u00a0000usei\n"

theorem parseList_inverse_listText_of_extremeCoins :
    Denominated extremeCoins ∧
      parseList (listText extremeCoins) = .ok extremeCoins ∧
      parseList looseText = .ok extremeCoins ∧
      rewritten (listText extremeCoins) = .ok (listText extremeCoins) := by
  have read : parseList looseText = .ok extremeCoins := by decide +kernel
  have denominated : Denominated extremeCoins := denominated_of_parseList read
  obtain ⟨readBack, _, unchanged⟩ := parseList_inverse_listText
  exact ⟨denominated, readBack _ denominated, read, (unchanged _ _ read).2⟩

end Rollout.Coin
