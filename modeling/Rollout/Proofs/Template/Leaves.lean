import Rollout.Proofs.Occurrence
import Rollout.Template

/-!
Contract: the placeholders of a JSON value, read off its strings.

Owns:
- the strings of a value, in the order in which they stand;
- well-formed texts and the placeholders in their slots;
- the placeholders of a value as those of its strings, one string after the other,
  and the fault of a value as that of its first malformed string.

Does not own: what placeholders stand for.
-/

namespace Rollout

/-! ## Strings of a value -/

namespace Json

mutual

/-- The strings of a value. Member names do not count. -/
def leaves : Json → List String
  | .string text => [text]
  | .array items => leavesOfItems items
  | .object members => leavesOfMembers members
  | .null | .bool _ | .number _ => []

def leavesOfItems : List Json → List String
  | [] => []
  | item :: rest => item.leaves ++ leavesOfItems rest

def leavesOfMembers : List (String × Json) → List String
  | [] => []
  | (_, value) :: rest => value.leaves ++ leavesOfMembers rest

end

end Json

namespace Template

/-! ## Texts -/

/-- A text whose slots are all closed and hold placeholders. -/
def WellFormed (text : String) : Prop :=
  ∃ found, pieces text = .ok found

/-- The placeholders in the slots of a text; none if the text is malformed. -/
def slots (text : String) : List Placeholder :=
  match pieces text with
  | .ok found => found.filterMap Piece.placeholder?
  | .error _ => []

theorem wellFormed_of_pieces
    {text : String}
    {found : List Piece}
    (read : pieces text = .ok found) :
    WellFormed text :=
  ⟨found, read⟩

theorem not_wellFormed_of_pieces
    {text : String}
    {fault : TemplateFault}
    (read : pieces text = .error fault) :
    ¬ WellFormed text := by
  intro wellFormed
  obtain ⟨found, readOk⟩ := wellFormed
  rw [read] at readOk
  cases readOk

theorem exists_fault_of_not_wellFormed
    {text : String}
    (malformed : ¬ WellFormed text) :
    ∃ fault, pieces text = .error fault := by
  cases read : pieces text with
  | ok found => exact absurd ⟨found, read⟩ malformed
  | error fault => exact ⟨fault, rfl⟩

theorem slots_of_pieces
    {text : String}
    {found : List Piece}
    (read : pieces text = .ok found) :
    slots text = found.filterMap Piece.placeholder? := by
  simp only [slots, read]

theorem placeholdersOfText_of_wellFormed
    {text : String}
    (wellFormed : WellFormed text) :
    placeholdersOfText text = .ok (slots text) := by
  obtain ⟨found, read⟩ := wellFormed
  simp only [placeholdersOfText, slots, read]

private theorem placeholdersOfText_of_fault
    {text : String}
    {fault : TemplateFault}
    (read : pieces text = .error fault) :
    placeholdersOfText text = .error fault := by
  simp only [placeholdersOfText, read]

/-! ## Lists of texts -/

def placeholdersOfTexts : List String → Except TemplateFault (List Placeholder)
  | [] => .ok []
  | text :: rest => join (placeholdersOfText text) (placeholdersOfTexts rest)

theorem join_nil_right (found : Except TemplateFault (List Placeholder)) :
    join found (.ok []) = found := by
  cases found with
  | error fault => rfl
  | ok placeholders => simp only [join, List.append_nil]

private theorem join_assoc (first second third : Except TemplateFault (List Placeholder)) :
    join (join first second) third = join first (join second third) := by
  cases first with
  | error fault => rfl
  | ok found =>
      cases second with
      | error fault => rfl
      | ok others =>
          cases third with
          | error fault => rfl
          | ok last => simp only [join, List.append_assoc]

theorem placeholdersOfTexts_append (left right : List String) :
    placeholdersOfTexts (left ++ right) =
      join (placeholdersOfTexts left) (placeholdersOfTexts right) := by
  induction left with
  | nil =>
      simp only [List.nil_append, placeholdersOfTexts]
      cases placeholdersOfTexts right <;> rfl
  | cons text rest inductionHypothesis =>
      simp only [List.cons_append, placeholdersOfTexts, inductionHypothesis, join_assoc]

/-- If all texts are well formed, their placeholders are those in their slots. -/
theorem placeholdersOfTexts_of_wellFormed
    {texts : List String}
    (wellFormed : ∀ text ∈ texts, WellFormed text) :
    placeholdersOfTexts texts = .ok (texts.flatMap slots) := by
  induction texts with
  | nil => rfl
  | cons text rest inductionHypothesis =>
      have restOk := inductionHypothesis fun other member =>
        wellFormed other (List.mem_cons_of_mem text member)
      have headOk := placeholdersOfText_of_wellFormed (wellFormed text (by simp))
      simp only [placeholdersOfTexts, headOk, restOk, join, List.flatMap_cons]

/-- The fault of texts is that of the first malformed one. -/
theorem placeholdersOfTexts_eq_error_iff
    {texts : List String}
    {fault : TemplateFault} :
    placeholdersOfTexts texts = .error fault ↔
      ∃ text, IsFirst (fun text => ¬ WellFormed text) texts text ∧
        pieces text = .error fault := by
  induction texts with
  | nil => simp [placeholdersOfTexts]
  | cons text rest inductionHypothesis =>
      cases read : pieces text with
      | error headFault =>
          have malformed := not_wellFormed_of_pieces read
          simp only [placeholdersOfTexts, placeholdersOfText_of_fault read, join,
            isFirst_cons, malformed, not_false_eq_true, true_and, not_true_eq_false,
            false_and, or_false, exists_eq_left, read, Except.error.injEq]
      | ok found =>
          have wellFormed := wellFormed_of_pieces read
          simp only [isFirst_cons, wellFormed, not_true_eq_false, false_and,
            not_false_eq_true, true_and, false_or, ← inductionHypothesis,
            placeholdersOfTexts, placeholdersOfText_of_wellFormed wellFormed]
          cases placeholdersOfTexts rest <;> simp [join]

/-! ## Values -/

mutual

/-- The placeholders of a value are those of its strings. -/
theorem placeholders_eq : ∀ value : Json,
    placeholders value = placeholdersOfTexts value.leaves
  | .string text => by
      simp only [placeholders, Json.leaves, placeholdersOfTexts, join_nil_right]
  | .array items => by
      simp only [placeholders, Json.leaves, placeholdersOfItems_eq items]
  | .object members => by
      simp only [placeholders, Json.leaves, placeholdersOfMembers_eq members]
  | .null | .bool _ | .number _ => by
      simp only [placeholders, Json.leaves, placeholdersOfTexts]

theorem placeholdersOfItems_eq : ∀ items : List Json,
    placeholdersOfItems items = placeholdersOfTexts (Json.leavesOfItems items)
  | [] => by
      simp only [placeholdersOfItems, Json.leavesOfItems, placeholdersOfTexts]
  | item :: rest => by
      simp only [placeholdersOfItems, Json.leavesOfItems, placeholdersOfTexts_append,
        placeholders_eq item, placeholdersOfItems_eq rest]

theorem placeholdersOfMembers_eq : ∀ members : List (String × Json),
    placeholdersOfMembers members = placeholdersOfTexts (Json.leavesOfMembers members)
  | [] => by
      simp only [placeholdersOfMembers, Json.leavesOfMembers, placeholdersOfTexts]
  | (name, value) :: rest => by
      simp only [placeholdersOfMembers, Json.leavesOfMembers, placeholdersOfTexts_append,
        placeholders_eq value, placeholdersOfMembers_eq rest]

end

end Template

end Rollout
