import Mathlib.Data.List.TakeWhile
import Rollout.Json.Printer
import Rollout.Json.Reader
import Rollout.Proofs.Text.Unsigned

/-!
Contract: strings and numbers are read back from what is written for them.

Owns:
- strings, whose escapes are read back whatever they hold;
- numbers, which are read back within a text if they are read back alone, and whole
  numbers, which are if they are in range.

Does not own: which doubles are read back from their shortest digits.
-/

namespace Rollout.Json

/-! ## Strings -/

/-- A unit of a written string that stands for a character by itself. -/
inductive UnitOf (character : Char) : TextUnit → Prop where
  | plain : UnitOf character (.character character)
  | numbered (below : character.toNat < 0xd800) : UnitOf character (.escaped character.toNat)

private theorem joinUnits?_cons
    {character : Char}
    {unit : TextUnit}
    (unitOf : UnitOf character unit)
    (units : List TextUnit) :
    joinUnits? (unit :: units) = (joinUnits? units).map (character :: ·) := by
  cases unitOf with
  | plain => rfl
  | numbered below =>
      rw [joinUnits?.eq_def]
      simp only [below, true_or, if_true, Char.ofNat_toNat]

private theorem readUnits_plain
    {character : Char}
    (noQuote : character ≠ '"')
    (noMark : character ≠ '\\')
    (printable : 0x20 ≤ character.toNat)
    (rest : List Char) :
    readUnits (character :: rest) =
      (readUnits rest).map fun (units, afterString) =>
        (.character character :: units, afterString) := by
  rw [readUnits.eq_5 _ _ noQuote (by simp [noMark]) (by simp [noMark]),
    if_neg (Nat.not_lt.mpr printable)]
  cases readUnits rest <;> rfl

private theorem readUnits_letter
    {letter character : Char}
    (escaped : escapedCharacter? letter = some character)
    (rest : List Char) :
    readUnits ('\\' :: letter :: rest) =
      (readUnits rest).map fun (units, afterString) =>
        (.character character :: units, afterString) := by
  have noNumber : letter ≠ 'u' := by
    rintro rfl
    cases escaped
  rw [readUnits.eq_4 _ _ (fun _ _ _ _ _ isNumber => absurd isNumber noNumber), escaped]
  cases readUnits rest <;> rfl

private theorem readUnits_number
    {first second third fourth : Char}
    {unit : Nat}
    (digits : hexUnit? first second third fourth = some unit)
    (rest : List Char) :
    readUnits ('\\' :: 'u' :: first :: second :: third :: fourth :: rest) =
      (readUnits rest).map fun (units, afterString) =>
        (.escaped unit :: units, afterString) := by
  rw [readUnits, digits]
  cases readUnits rest <;> rfl

private theorem hexUnit?_controlDigits :
    ∀ unit < 0x20,
      hexUnit? '0' '0' (Nat.digitChar (unit / 16)) (Nat.digitChar (unit % 16)) =
        some unit := by
  decide

private theorem eq_of_toNat
    {left right : Char}
    (same : left.toNat = right.toNat) :
    left = right :=
  Char.ext (UInt32.toNat_inj.mp same)

/-- Reading what is written for a character gives a unit that stands for it. -/
private theorem exists_readUnits_escapeCharacter (character : Char) :
    ∃ unit, UnitOf character unit ∧ ∀ rest,
      readUnits (escapeCharacter character ++ rest) =
        (readUnits rest).map fun (units, afterString) => (unit :: units, afterString) := by
  have letterFor : ∀ {letter : Char}, escapedCharacter? letter = some character →
      ∃ unit, UnitOf character unit ∧ ∀ rest,
        readUnits (['\\', letter] ++ rest) =
          (readUnits rest).map fun (units, afterString) => (unit :: units, afterString) :=
    fun escaped => ⟨_, .plain, readUnits_letter escaped⟩
  unfold escapeCharacter
  split
  · rename_i isQuote
    subst isQuote
    exact letterFor rfl
  split
  · rename_i isMark
    subst isMark
    exact letterFor rfl
  split
  · rename_i noQuote noMark printable
    exact ⟨_, .plain, readUnits_plain noQuote noMark printable⟩
  rename_i notPrintable
  split
  · rename_i code
    have same : character = '\x08' := eq_of_toNat code
    exact letterFor (same ▸ rfl)
  split
  · rename_i code
    have same : character = '\t' := eq_of_toNat code
    exact letterFor (same ▸ rfl)
  split
  · rename_i code
    have same : character = '\n' := eq_of_toNat code
    exact letterFor (same ▸ rfl)
  split
  · rename_i code
    have same : character = '\x0c' := eq_of_toNat code
    exact letterFor (same ▸ rfl)
  split
  · rename_i code
    have same : character = '\r' := eq_of_toNat code
    exact letterFor (same ▸ rfl)
  · have control : character.toNat < 0x20 := by omega
    exact ⟨_, .numbered (by omega), readUnits_number (hexUnit?_controlDigits _ control)⟩

theorem readUnits_escaped
    (text rest : List Char) :
    ∃ units, readUnits (text.flatMap escapeCharacter ++ '"' :: rest) = some (units, rest) ∧
      joinUnits? units = some text := by
  induction text with
  | nil => exact ⟨[], rfl, rfl⟩
  | cons character later inductionHypothesis =>
      obtain ⟨units, readLater, joined⟩ := inductionHypothesis
      obtain ⟨unit, unitOf, read⟩ := exists_readUnits_escapeCharacter character
      refine ⟨unit :: units, ?_, ?_⟩
      · rw [List.flatMap_cons, List.append_assoc, read, readLater]
        rfl
      · rw [joinUnits?_cons unitOf, joined]
        rfl

/-! ## Numbers -/

/-- The number of a text that is one written number and nothing else. -/
def Number.ofCharacters? (text : List Char) : Option Number :=
  match readNumeral text with
  | some (numeral, []) => numeral.number?
  | _ => none

/-- The text of a number is read back as the number. -/
def Number.ReadsBack (number : Number) : Prop :=
  Number.ofCharacters? number.characters = some number

instance (number : Number) : Decidable number.ReadsBack :=
  inferInstanceAs (Decidable (_ = _))

def isNumeric (character : Char) : Bool :=
  Text.isDigit character || ['.', 'e', 'E', '+', '-'].contains character

/-- A number that stands before a text does not go on in it. -/
def EndsNumber (text : List Char) : Prop :=
  ∀ next ∈ text.head?, isNumeric next = false

variable {rest : List Char}

private theorem EndsNumber.noDigit
    {next : Char}
    {later : List Char}
    (ends : EndsNumber (next :: later)) :
    Text.isDigit next = false :=
  (Bool.or_eq_false_iff.mp (ends next rfl)).1

theorem endsNumber_nil : EndsNumber [] :=
  nofun

theorem endsNumber_comma (later : List Char) : EndsNumber (',' :: later) := by
  rintro next ⟨⟩
  rfl

theorem endsNumber_lineBreak
    (level : Nat)
    (later : List Char) :
    EndsNumber (lineBreak level ++ later) := by
  rintro next ⟨⟩
  rfl

/-- In front of the end of numbers, a text begins with a numeric character only if it
does so by itself. -/
private theorem EndsNumber.append_ne_cons
    {mark : Char}
    {text : List Char}
    (ends : EndsNumber rest)
    (numeric : isNumeric mark = true)
    (otherwise : ∀ later, text ≠ mark :: later) :
    ∀ later, text ++ rest ≠ mark :: later := by
  intro later begins
  cases text with
  | nil =>
      subst begins
      exact absurd numeric (Bool.not_eq_true _ ▸ ends mark rfl)
  | cons first others =>
      cases begins
      exact otherwise others rfl

private theorem EndsNumber.takeWhile_append
    (ends : EndsNumber rest)
    (text : List Char) :
    (text ++ rest).takeWhile Text.isDigit = text.takeWhile Text.isDigit := by
  induction text with
  | nil =>
      cases rest with
      | nil => rfl
      | cons next later => simp [ends.noDigit]
  | cons first later inductionHypothesis =>
      simp only [List.cons_append, List.takeWhile_cons, inductionHypothesis]

private theorem EndsNumber.dropWhile_append
    (ends : EndsNumber rest)
    (text : List Char) :
    (text ++ rest).dropWhile Text.isDigit = text.dropWhile Text.isDigit ++ rest := by
  induction text with
  | nil =>
      cases rest with
      | nil => rfl
      | cons next later => simp [ends.noDigit]
  | cons first later inductionHypothesis =>
      simp only [List.cons_append, List.dropWhile_cons, inductionHypothesis]
      split <;> rfl

/-- What a reader reads it also reads in front of a text that ends numbers. -/
def ReadsInFront {α : Type} (reader : PieceReader α) : Prop :=
  ∀ ⦃text left rest : List Char⦄ ⦃piece : α⦄,
    EndsNumber rest → reader text = some (piece, left) →
      reader (text ++ rest) = some (piece, left ++ rest)

private theorem readsInFront_readDigits : ReadsInFront readDigits := by
  intro text left rest piece ends read
  unfold readDigits at read ⊢
  rw [ends.takeWhile_append, ends.dropWhile_append]
  split at read
  · cases read
  · cases read
    rfl

private theorem readsInFront_readWhole : ReadsInFront readWhole := by
  intro text left rest piece ends read
  unfold readWhole at read
  split at read
  · rename_i later
    split at read
    · cases read
      cases rest with
      | nil => rfl
      | cons next later => simp [readWhole, ends.noDigit]
    · rename_i next others
      split at read
      · cases read
      · rename_i noDigit
        cases read
        simp [readWhole, noDigit]
  · rename_i noZero
    rw [readWhole.eq_3 _ (ends.append_ne_cons rfl noZero), ends.takeWhile_append,
      ends.dropWhile_append]
    split at read
    · cases read
    · cases read
      rfl

private theorem readsInFront_readFraction : ReadsInFront readFraction := by
  intro text left rest piece ends read
  unfold readFraction at read
  split at read
  · obtain ⟨⟨digits, after⟩, readPart, same⟩ := Option.map_eq_some_iff.mp read
    cases same
    rw [List.cons_append, readFraction, readsInFront_readDigits ends readPart]
    rfl
  · rename_i noPoint
    cases read
    rw [readFraction.eq_2 _ (ends.append_ne_cons rfl noPoint)]

private theorem readsInFront_readExponentDigits : ReadsInFront readExponentDigits := by
  intro text left rest piece ends read
  unfold readExponentDigits at read
  split at read
  all_goals
    obtain ⟨⟨digits, after⟩, readPart, same⟩ := Option.map_eq_some_iff.mp read
    cases same
    have readLonger := readsInFront_readDigits ends readPart
  · rw [List.cons_append, readExponentDigits, readLonger]
    rfl
  · rw [List.cons_append, readExponentDigits, readLonger]
    rfl
  · rename_i noPlus noMinus
    rw [readExponentDigits.eq_3 _ (ends.append_ne_cons rfl noPlus)
      (ends.append_ne_cons rfl noMinus), readLonger]
    rfl

private theorem readsInFront_readExponent : ReadsInFront readExponent := by
  intro text left rest piece ends read
  unfold readExponent at read
  split at read
  · obtain ⟨⟨exponent, after⟩, readPart, same⟩ := Option.map_eq_some_iff.mp read
    cases same
    rw [List.cons_append, readExponent, readsInFront_readExponentDigits ends readPart]
    rfl
  · obtain ⟨⟨exponent, after⟩, readPart, same⟩ := Option.map_eq_some_iff.mp read
    cases same
    rw [List.cons_append, readExponent, readsInFront_readExponentDigits ends readPart]
    rfl
  · rename_i noSmall noCapital
    cases read
    rw [readExponent.eq_3 _ (ends.append_ne_cons rfl noSmall)
      (ends.append_ne_cons rfl noCapital)]

private theorem readsInFront_readUnsignedNumeral (negative : Bool) :
    ReadsInFront (readUnsignedNumeral negative) := by
  intro text left rest piece ends read
  simp only [readUnsignedNumeral, Option.bind_eq_bind, Option.bind_eq_some_iff] at read
  obtain ⟨⟨whole, afterWhole⟩, readWhole, ⟨fraction, afterFraction⟩, readFraction,
    ⟨exponent, afterExponent⟩, readExponent, same⟩ := read
  cases same
  simp [readUnsignedNumeral, readsInFront_readWhole ends readWhole,
    readsInFront_readFraction ends readFraction, readsInFront_readExponent ends readExponent]

private theorem readsInFront_readNumeral : ReadsInFront readNumeral := by
  intro text left rest piece ends read
  unfold readNumeral at read
  split at read
  · exact readsInFront_readUnsignedNumeral true ends read
  · rename_i noMinus
    rw [readNumeral.eq_2 _ (ends.append_ne_cons rfl noMinus)]
    exact readsInFront_readUnsignedNumeral false ends read

/-- A number that is read back alone is read back in front of the end of numbers. -/
theorem Number.ReadsBack.exists_numeral
    {number : Number}
    (readsBack : number.ReadsBack) :
    ∃ numeral, numeral.number? = some number ∧
      ∀ rest, EndsNumber rest →
        readNumeral (number.characters ++ rest) = some (numeral, rest) := by
  unfold Number.ReadsBack Number.ofCharacters? at readsBack
  split at readsBack
  · rename_i numeral read
    exact ⟨numeral, readsBack, fun rest ends => readsInFront_readNumeral ends read⟩
  · cases readsBack

private theorem takeWhile_toDigits (value : Nat) :
    (Nat.toDigits 10 value).takeWhile Text.isDigit = Nat.toDigits 10 value :=
  List.takeWhile_eq_self_iff.mpr fun _ member => Text.isDigit_of_mem_toDigits member

private theorem readWhole_toDigits (value : Nat) :
    readWhole (Nat.toDigits 10 value) = some (Nat.toDigits 10 value, []) := by
  rcases Nat.eq_zero_or_pos value with rfl | positive
  · decide
  · have noZero : ∀ later, Nat.toDigits 10 value ≠ '0' :: later := by
      intro later begins
      exact Text.head?_toDigits_ne_zero positive (by rw [begins]; rfl)
    have nothingLeft : (Nat.toDigits 10 value).dropWhile Text.isDigit = [] :=
      List.dropWhile_eq_nil_iff.mpr fun _ member => Text.isDigit_of_mem_toDigits member
    rw [readWhole.eq_3 _ noZero, takeWhile_toDigits, nothingLeft]
    split
    · rename_i noDigits
      exact absurd noDigits Nat.toDigits_ne_nil
    · rfl

private theorem readUnsignedNumeral_toDigits
    (negative : Bool)
    (value : Nat) :
    readUnsignedNumeral negative (Nat.toDigits 10 value) =
      some (⟨negative, Nat.toDigits 10 value, none, none⟩, []) := by
  simp [readUnsignedNumeral, readWhole_toDigits, readFraction, readExponent]

/-- Whole numbers in range are read back. -/
theorem readsBack_integer
    {value : Int}
    (least : -(greatestNegated : Int) ≤ value)
    (below : value < UInt64.size) :
    (Number.integer value).ReadsBack := by
  unfold Number.ReadsBack Number.ofCharacters?
  cases value with
  | ofNat value =>
      have noMinus : ∀ later, Nat.toDigits 10 value ≠ '-' :: later := by
        intro later begins
        have isDigit : Text.isDigit '-' = true :=
          Text.isDigit_of_mem_toDigits (begins ▸ List.mem_cons_self)
        cases isDigit
      have inRange : value < UInt64.size := Int.ofNat_lt.mp below
      rw [Number.characters, readNumeral.eq_2 _ noMinus, readUnsignedNumeral_toDigits]
      simp [Numeral.number?, Text.digitsValue_toDigits, inRange]
  | negSucc predecessor =>
      have inRange : predecessor + 1 ≤ greatestNegated := by omega
      rw [Number.characters, readNumeral, readUnsignedNumeral_toDigits]
      simp [Numeral.number?, Text.digitsValue_toDigits, inRange, Int.negSucc_eq]

end Rollout.Json
