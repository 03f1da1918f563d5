import Mathlib.Data.List.DropRight
import Rollout.Proofs.Json.Nesting
import Rollout.Proofs.Json.Scalars

/-!
Contract: reading the indented text of a value gives the value back.

Owns:
- that spaces between pieces do not count;
- that a value is read back if its numbers are and if it is nested no deeper than
  reading allows.

Does not own: compact text.
-/

namespace Rollout.Json

/-! ## Spaces -/

private theorem skipSpaces_skipSpaces (text : List Char) :
    skipSpaces (skipSpaces text) = skipSpaces text :=
  List.dropWhile_idempotent isSpace text

private theorem skipSpaces_cons
    {first : Char}
    (noSpace : isSpace first = false)
    (others : List Char) :
    skipSpaces (first :: others) = first :: others := by
  rw [skipSpaces, List.dropWhile_cons, if_neg (by simp [noSpace])]

private theorem skipSpaces_lineBreak
    (level : Nat)
    (text : List Char) :
    skipSpaces (lineBreak level ++ text) = skipSpaces text := by
  have spaces : ∀ character ∈ lineBreak level, isSpace character = true := by
    intro character member
    rcases List.mem_cons.mp member with rfl | inIndentation
    · rfl
    · rw [List.eq_of_mem_replicate inIndentation]
      rfl
  exact List.dropWhile_append_of_pos spaces

private theorem readTree_congr
    {first second : List Char}
    (same : skipSpaces first = skipSpaces second)
    (steps : Nat) :
    readTree steps first = readTree steps second := by
  cases steps with
  | zero => rfl
  | succ steps => simp only [readTree, same]

private theorem readItems_congr
    {first second : List Char}
    (same : skipSpaces first = skipSpaces second)
    (steps : Nat) :
    readItems steps first = readItems steps second := by
  cases steps with
  | zero => rfl
  | succ steps => simp only [readItems, readTree_congr same]

private theorem readMembers_congr
    {first second : List Char}
    (same : skipSpaces first = skipSpaces second)
    (steps : Nat) :
    readMembers steps first = readMembers steps second := by
  cases steps with
  | zero => rfl
  | succ steps => simp only [readMembers, same]

/-! ## Values -/

/-- A text is read as a value wherever a number may end. -/
def ReadsAs
    (depth : Nat)
    (text : List Char)
    (value : Json) :
    Prop :=
  ∀ steps rest, 2 * text.length < steps → EndsNumber rest →
    ∃ tree, readTree steps (text ++ rest) = some (tree, rest) ∧
      tree.value? depth = some value

/-- A number begins with a digit or with a minus sign. -/
private theorem readNumeral_eq_none
    {first : Char}
    (noDigit : Text.isDigit first = false)
    (noMinus : first ≠ '-')
    (others : List Char) :
    readNumeral (first :: others) = none := by
  have noZero : first ≠ '0' := by
    rintro rfl
    cases noDigit
  rw [readNumeral.eq_2 _ (by simp [noMinus]), readUnsignedNumeral,
    readWhole.eq_3 _ (by simp [noZero]), List.takeWhile_cons, noDigit]
  rfl

private theorem readTree_numeral
    {text left : List Char}
    {numeral : Numeral}
    (read : readNumeral text = some (numeral, left))
    (steps : Nat) :
    readTree (steps + 1) text = some (.number numeral, left) := by
  have otherwise : ∀ {first : Char} {others : List Char}, text = first :: others →
      Text.isDigit first = false → first = '-' := by
    rintro first others rfl noDigit
    by_contra noMinus
    rw [readNumeral_eq_none noDigit noMinus] at read
    cases read
  have noSpace : skipSpaces text = text := by
    cases text with
    | nil => rfl
    | cons first others =>
        refine skipSpaces_cons (Bool.eq_false_iff.mpr fun space => ?_) others
        simp only [isSpace, Bool.or_eq_true, beq_iff_eq] at space
        rcases space with ((rfl | rfl) | rfl) | rfl
        all_goals exact absurd (otherwise rfl rfl) (by decide)
  -- Every other kind of value begins with a character that no numeral begins with.
  rw [readTree, noSpace]
  split
  case h_7 =>
    rw [read]
    rfl
  all_goals exact absurd (otherwise rfl rfl) (by decide)

private theorem readTree_string
    (text : String)
    (steps : Nat)
    (rest : List Char) :
    ∃ units, readTree (steps + 1) (quoteText text ++ rest) = some (.string units, rest) ∧
      joinUnits? units = some text.toList := by
  obtain ⟨units, read, joined⟩ := readUnits_escaped text.toList rest
  refine ⟨units, ?_, joined⟩
  have split : quoteText text ++ rest =
      '"' :: (text.toList.flatMap escapeCharacter ++ '"' :: rest) := by
    simp [quoteText]
  rw [split, readTree, skipSpaces_cons rfl]
  simp only [read, Option.map_some]

private theorem readItems_eq_none
    {text later : List Char}
    (closed : skipSpaces text = ']' :: later)
    (steps : Nat) :
    readItems steps text = none := by
  have noItem : ∀ steps, readTree steps text = none := by
    intro steps
    cases steps with
    | zero => rfl
    | succ steps =>
        have noNumber : readNumeral (']' :: later) = none :=
          readNumeral_eq_none rfl (by decide) later
        rw [readTree, closed]
        simp [noNumber]
  cases steps with
  | zero => rfl
  | succ steps => rw [readItems, noItem]

private theorem readTree_array
    {text rest : List Char}
    {items : List Tree}
    {steps : Nat}
    (read : readItems steps text = some (items, rest)) :
    readTree (steps + 1) ('[' :: text) = some (.array items, rest) := by
  rw [readTree, skipSpaces_cons rfl]
  simp only
  -- An array that closes at once would have no items to read.
  split
  · rename_i closed
    rw [readItems_eq_none closed] at read
    cases read
  · rw [readItems_congr (skipSpaces_skipSpaces text), read]
    rfl

private theorem readTree_object
    {text rest : List Char}
    {members : List (List TextUnit × Tree)}
    {steps : Nat}
    (read : readMembers steps text = some (members, rest)) :
    readTree (steps + 1) ('{' :: text) = some (.object members, rest) := by
  rw [readTree, skipSpaces_cons rfl]
  simp only
  split
  · rename_i closed
    cases steps with
    | zero => cases read
    | succ steps =>
        rw [readMembers, closed] at read
        cases read
  · rw [readMembers_congr (skipSpaces_skipSpaces text), read]
    rfl

variable {depth level : Nat}

/-- Scalars are read back if they are no numbers, or numbers that are. -/
private theorem readsAs_scalar
    {value : Json}
    (noArray : ∀ items, value ≠ .array items)
    (noObject : ∀ members, value ≠ .object members)
    (numbers : ∀ number, value.HasNumber number → number.ReadsBack) :
    ReadsAs depth (prettyCharacters level value) value := by
  intro steps rest enough ends
  obtain ⟨steps, rfl⟩ := Nat.exists_eq_succ_of_ne_zero (Nat.ne_zero_of_lt enough)
  cases value with
  | null => exact ⟨.null, by simp [prettyCharacters, readTree, skipSpaces, isSpace], rfl⟩
  | bool truth =>
      cases truth with
      | true => exact ⟨.bool true, by simp [prettyCharacters, readTree, skipSpaces, isSpace], rfl⟩
      | false => exact ⟨.bool false, by simp [prettyCharacters, readTree, skipSpaces, isSpace], rfl⟩
  | number number =>
      obtain ⟨numeral, chosen, read⟩ := (numbers number .here).exists_numeral
      refine ⟨.number numeral, ?_, by simp [Tree.value?, chosen]⟩
      rw [prettyCharacters]
      exact readTree_numeral (read rest ends) steps
  | string text =>
      obtain ⟨units, read, joined⟩ := readTree_string text steps rest
      refine ⟨.string units, ?_, by simp [Tree.value?, joined]⟩
      rw [prettyCharacters]
      exact read
  | array items => exact absurd rfl (noArray items)
  | object members => exact absurd rfl (noObject members)

/-- Items are read back if each is. -/
private theorem readItems_pretty
    {items : List Json}
    (someItems : items ≠ [])
    (each : ∀ item ∈ items, ReadsAs depth (prettyCharacters (level + 1) item) item) :
    ∀ steps rest, 2 * (prettyItems level items).length < steps →
      ∃ trees, readItems steps (prettyItems level items ++ rest) = some (trees, rest) ∧
        itemValues? depth trees = some items := by
  induction items with
  | nil => exact absurd rfl someItems
  | cons item others inductionHypothesis =>
      intro steps rest enough
      obtain ⟨steps, rfl⟩ := Nat.exists_eq_succ_of_ne_zero (Nat.ne_zero_of_lt enough)
      have readItem := each item List.mem_cons_self steps
      -- The last item is read up to the closing bracket, and any other one up to a comma.
      cases others with
      | nil =>
          simp only [prettyItems, List.length_append, List.length_singleton] at enough
          obtain ⟨tree, read, chosen⟩ := readItem (lineBreak level ++ ']' :: rest) (by omega)
            (endsNumber_lineBreak level _)
          refine ⟨[tree], ?_, by simp [itemValues?, chosen]⟩
          have split : prettyItems level [item] ++ rest =
              lineBreak (level + 1) ++ (prettyCharacters (level + 1) item ++
                (lineBreak level ++ ']' :: rest)) := by
            simp [prettyItems]
          rw [split, readItems, readTree_congr (skipSpaces_lineBreak _ _), read]
          simp only [skipSpaces_lineBreak, skipSpaces_cons (show isSpace ']' = false from rfl)]
      | cons next more =>
          simp only [prettyItems, List.length_append, List.length_cons] at enough
          obtain ⟨tree, read, chosen⟩ :=
            readItem (',' :: (prettyItems level (next :: more) ++ rest)) (by omega)
              (endsNumber_comma _)
          obtain ⟨trees, readLater, chosenLater⟩ :=
            inductionHypothesis (List.cons_ne_nil next more)
              (fun later isLater => each later (List.mem_cons_of_mem item isLater))
              steps rest (by omega)
          refine ⟨tree :: trees, ?_, by simp [itemValues?, chosen, chosenLater]⟩
          have split : prettyItems level (item :: next :: more) ++ rest =
              lineBreak (level + 1) ++ (prettyCharacters (level + 1) item ++
                ',' :: (prettyItems level (next :: more) ++ rest)) := by
            simp [prettyItems]
          rw [split, readItems, readTree_congr (skipSpaces_lineBreak _ _), read]
          simp only [skipSpaces_cons (show isSpace ',' = false from rfl), readLater,
            Option.map_some]

/-- What is read of an object from behind the value of a member. -/
def readBehind
    (steps : Nat)
    (member : List TextUnit × Tree)
    (after : List Char) :
    Option (List (List TextUnit × Tree) × List Char) :=
  match skipSpaces after with
  | '}' :: rest => some ([member], rest)
  | ',' :: rest =>
      (readMembers steps rest).map fun (members, rest) => (member :: members, rest)
  | _ => none

/-- The first of several members is read up to what follows its value. -/
private theorem readMembers_first
    {text after : List Char}
    {value : Json}
    (readValue : ReadsAs depth text value)
    (level : Nat)
    (name : String)
    {steps : Nat}
    (enough : 2 * text.length < steps)
    (ends : EndsNumber after) :
    ∃ member : List TextUnit × Tree,
      joinUnits? member.1 = some name.toList ∧ member.2.value? depth = some value ∧
      readMembers (steps + 1)
          (lineBreak level ++ (quoteText name ++ ':' :: ' ' :: (text ++ after))) =
        readBehind steps member after := by
  obtain ⟨tree, read, chosen⟩ := readValue steps after enough ends
  obtain ⟨units, readName, joined⟩ :=
    readUnits_escaped name.toList (':' :: ' ' :: (text ++ after))
  refine ⟨(units, tree), joined, chosen, ?_⟩
  have atName : skipSpaces (lineBreak level ++
      (quoteText name ++ ':' :: ' ' :: (text ++ after))) =
      '"' :: (name.toList.flatMap escapeCharacter ++ '"' :: ':' :: ' ' :: (text ++ after)) := by
    rw [skipSpaces_lineBreak, quoteText]
    simp [skipSpaces_cons (show isSpace '"' = false from rfl)]
  have atValue : readTree steps (' ' :: (text ++ after)) = some (tree, after) := by
    have same : skipSpaces (' ' :: (text ++ after)) = skipSpaces (text ++ after) := rfl
    rw [readTree_congr same, read]
  rw [readMembers, atName]
  simp only [readName, skipSpaces_cons (show isSpace ':' = false from rfl), atValue]
  rfl

/-- Members are read back if their values are. -/
private theorem readMembers_pretty
    {members : List (String × Json)}
    (someMembers : members ≠ [])
    (each : ∀ member ∈ members,
      ReadsAs depth (prettyCharacters (level + 1) member.2) member.2) :
    ∀ steps rest, 2 * (prettyMembers level members).length < steps →
      ∃ trees, readMembers steps (prettyMembers level members ++ rest) = some (trees, rest) ∧
        memberValues? depth trees = some members := by
  induction members with
  | nil => exact absurd rfl someMembers
  | cons member others inductionHypothesis =>
      obtain ⟨name, value⟩ := member
      intro steps rest enough
      obtain ⟨steps, rfl⟩ := Nat.exists_eq_succ_of_ne_zero (Nat.ne_zero_of_lt enough)
      have readValue : ReadsAs depth (prettyCharacters (level + 1) value) value :=
        each (name, value) List.mem_cons_self
      cases others with
      | nil =>
          simp only [prettyMembers, List.length_append, List.length_cons] at enough
          have shorter : 2 * (prettyCharacters (level + 1) value).length < steps := by omega
          obtain ⟨member, joined, chosen, read⟩ := readMembers_first readValue (level + 1) name
            shorter (endsNumber_lineBreak level ('}' :: rest))
          refine ⟨[member], ?_, by simp [memberValues?, chosen, joined]⟩
          have split : prettyMembers level [(name, value)] ++ rest =
              lineBreak (level + 1) ++ (quoteText name ++ ':' :: ' ' ::
                (prettyCharacters (level + 1) value ++ (lineBreak level ++ '}' :: rest))) := by
            simp [prettyMembers]
          rw [split, read, readBehind]
          simp only [skipSpaces_lineBreak, skipSpaces_cons (show isSpace '}' = false from rfl)]
      | cons next more =>
          simp only [prettyMembers, List.length_append, List.length_cons] at enough
          have shorter : 2 * (prettyCharacters (level + 1) value).length < steps := by omega
          obtain ⟨member, joined, chosen, read⟩ := readMembers_first readValue (level + 1) name
            shorter (endsNumber_comma (prettyMembers level (next :: more) ++ rest))
          obtain ⟨trees, readLater, chosenLater⟩ :=
            inductionHypothesis (List.cons_ne_nil next more)
              (fun later isLater => each later (List.mem_cons_of_mem _ isLater))
              steps rest (by omega)
          refine ⟨member :: trees, ?_, by simp [memberValues?, chosen, chosenLater, joined]⟩
          have split : prettyMembers level ((name, value) :: next :: more) ++ rest =
              lineBreak (level + 1) ++ (quoteText name ++ ':' :: ' ' ::
                (prettyCharacters (level + 1) value ++
                  ',' :: (prettyMembers level (next :: more) ++ rest))) := by
            simp [prettyMembers]
          rw [split, read, readBehind]
          simp only [skipSpaces_cons (show isSpace ',' = false from rfl), readLater,
            Option.map_some]

/-- The indented text of a value is read as the value. -/
theorem readsAs_pretty : ∀ {depth : Nat} {value : Json} (level : Nat),
    value.Nested depth →
    (∀ number, value.HasNumber number → number.ReadsBack) →
    ReadsAs depth (prettyCharacters level value) value
  | depth + 1, .array (item :: others), level, nested, numbers => by
      intro steps rest enough ends
      have each : ∀ other ∈ item :: others,
          ReadsAs depth (prettyCharacters (level + 1) other) other :=
        fun other member => readsAs_pretty (level + 1) (nested other member)
          fun number held => numbers number (.inItem member held)
      obtain ⟨steps, rfl⟩ := Nat.exists_eq_succ_of_ne_zero (Nat.ne_zero_of_lt enough)
      simp only [prettyCharacters, List.length_cons] at enough
      obtain ⟨trees, read, chosen⟩ :=
        readItems_pretty (List.cons_ne_nil item others) each steps rest (by omega)
      exact ⟨.array trees, readTree_array read, by simp [Tree.value?, chosen]⟩
  | depth + 1, .object (member :: others), level, nested, numbers => by
      intro steps rest enough ends
      have each : ∀ other ∈ member :: others,
          ReadsAs depth (prettyCharacters (level + 1) other.2) other.2 :=
        fun other isMember => readsAs_pretty (level + 1) (nested.2 other isMember)
          fun number held => numbers number (.inMember isMember held)
      obtain ⟨steps, rfl⟩ := Nat.exists_eq_succ_of_ne_zero (Nat.ne_zero_of_lt enough)
      simp only [prettyCharacters, List.length_cons] at enough
      obtain ⟨trees, read, chosen⟩ :=
        readMembers_pretty (List.cons_ne_nil member others) each steps rest (by omega)
      refine ⟨.object trees, readTree_object read, ?_⟩
      simp [Tree.value?, chosen, nested.1.orderMembers_eq]
  | depth + 1, .array [], _, _, _ => by
      intro steps rest enough _
      obtain ⟨steps, rfl⟩ := Nat.exists_eq_succ_of_ne_zero (Nat.ne_zero_of_lt enough)
      exact ⟨.array [], by simp [prettyCharacters, readTree, skipSpaces, isSpace], rfl⟩
  | depth + 1, .object [], _, _, _ => by
      intro steps rest enough _
      obtain ⟨steps, rfl⟩ := Nat.exists_eq_succ_of_ne_zero (Nat.ne_zero_of_lt enough)
      exact ⟨.object [], by simp [prettyCharacters, readTree, skipSpaces, isSpace], rfl⟩
  | 0, .array _, _, nested, _ | 0, .object _, _, nested, _ => by cases nested
  | _, .null, _, _, numbers | _, .bool _, _, _, numbers | _, .number _, _, _, numbers
  | _, .string _, _, _, numbers => readsAs_scalar nofun nofun numbers

/-- A value that is nested at most `depth` times and whose numbers are read back. -/
structure Printable (depth : Nat) (value : Json) : Prop where
  nested : value.Nested depth
  numbers : ∀ number, value.HasNumber number → number.ReadsBack

theorem printable_object_iff {members : List (String × Json)} :
    Printable (depth + 1) (.object members) ↔
      Ordered members ∧ ∀ member ∈ members, Printable depth member.2 := by
  constructor
  · intro printable
    refine ⟨printable.nested.1, fun member isMember => ⟨printable.nested.2 member isMember, ?_⟩⟩
    exact fun number held => printable.numbers number (.inMember isMember held)
  · intro parts
    refine ⟨⟨parts.1, fun member isMember => (parts.2 member isMember).nested⟩, ?_⟩
    rintro number ⟨⟩
    rename_i member held isMember
    exact (parts.2 member isMember).numbers number held

/-- A value is read back from its indented text if its numbers are, and if it is nested
no deeper than reading allows. -/
theorem ofText?_pretty
    {value : Json}
    (printable : value.Printable depthLimit) :
    ofText? value.pretty = some value := by
  obtain ⟨tree, read, chosen⟩ := readsAs_pretty 0 printable.nested printable.numbers
    (2 * (prettyCharacters 0 value).length + 2) [] (by omega) endsNumber_nil
  rw [List.append_nil] at read
  rw [ofText?, pretty, String.toList_ofList, ofCharacters?, Tree.ofCharacters?, read]
  exact chosen

end Rollout.Json
