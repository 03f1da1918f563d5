import Mathlib.Data.List.Infix
import Rollout.Placeholder

/-!
Contract: which insides of slots are placeholders.

Owns:
- placeholders that can be told apart by what is written in their slots;
- that reading the inside of a slot gives such a placeholder, and the one whose inside
  it is.

Does not own: where a slot ends.
-/

namespace Rollout.Placeholder

variable {placeholder : Placeholder} {characters before after : List Char}

def variableMark : List Char :=
  ['v', 'a', 'r', ':']

def name : Placeholder → String
  | .address resource => resource
  | .codeId resource => resource
  | .var key => key

/-- A placeholder that its inside stands for. Its name is not empty, and that of a
resource does not begin like a variable. -/
structure Legible (placeholder : Placeholder) : Prop where
  named : placeholder.name ≠ ""
  unmarked : ∀ resource, placeholder.resource? = some resource →
    ¬ variableMark <+: resource.toList

/-! ## The last point -/

private theorem splitLastPoint?_eq_none_iff :
    splitLastPoint? characters = none ↔ '.' ∉ characters := by
  induction characters with
  | nil => simp [splitLastPoint?]
  | cons character rest inductionHypothesis =>
      unfold splitLastPoint?
      cases split : splitLastPoint? rest with
      | none =>
          have noneInRest := inductionHypothesis.mp split
          by_cases point : character = '.'
          · simp [point]
          · simp [point, noneInRest, Ne.symm point]
      | some parts =>
          have inRest : '.' ∈ rest := by
            by_contra absent
            rw [inductionHypothesis.mpr absent] at split
            cases split
          simp [inRest]

/-- A text with a point is split at the last one. -/
theorem splitLastPoint?_append (noPoint : '.' ∉ after) :
    splitLastPoint? (before ++ '.' :: after) = some (before, after) := by
  induction before with
  | nil =>
      have none : splitLastPoint? after = none := splitLastPoint?_eq_none_iff.mpr noPoint
      simp [splitLastPoint?, none]
  | cons character rest inductionHypothesis =>
      simp [splitLastPoint?, inductionHypothesis]

private theorem eq_append_of_splitLastPoint?
    (split : splitLastPoint? characters = some (before, after)) :
    characters = before ++ '.' :: after ∧ '.' ∉ after := by
  induction characters generalizing before with
  | nil => cases split
  | cons character rest inductionHypothesis =>
      unfold splitLastPoint? at split
      cases splitRest : splitLastPoint? rest with
      | some parts =>
          obtain ⟨first, last⟩ := parts
          rw [splitRest] at split
          cases split
          obtain ⟨joined, noPoint⟩ := inductionHypothesis splitRest
          exact ⟨by rw [joined, List.cons_append], noPoint⟩
      | none =>
          rw [splitRest] at split
          by_cases point : character = '.'
          · simp only [point, ↓reduceIte, Option.some.injEq, Prod.mk.injEq] at split
            obtain ⟨rfl, rfl⟩ := split
            exact ⟨by rw [point, List.nil_append], splitLastPoint?_eq_none_iff.mp splitRest⟩
          · simp [point] at split

/-! ## The inside of a slot -/

private theorem ofInside_variable (key : List Char) :
    ofInside (variableMark ++ key) =
      if key = [] then
        .error (.unnamedVariable "var:")
      else
        .ok (.var (String.ofList key)) := by
  cases key with
  | nil => rfl
  | cons first rest => rfl

/-- What does not begin like a variable is a resource and a field, with a point between
them. -/
theorem ofInside_field
    {resource field : List Char}
    (unmarked : ¬ variableMark <+: resource ++ '.' :: field)
    (noPoint : '.' ∉ field) :
    ofInside (resource ++ '.' :: field) =
      if resource = [] then
        .error (.unnamedResource (String.ofList (resource ++ '.' :: field)))
      else if field = "address".toList then
        .ok (.address (String.ofList resource))
      else if field = "code_id".toList then
        .ok (.codeId (String.ofList resource))
      else
        .error (.unknownField (String.ofList field)
          (String.ofList (resource ++ '.' :: field))) := by
  have noMark : ∀ key, resource ++ '.' :: field = 'v' :: 'a' :: 'r' :: ':' :: key → False :=
    fun key same => unmarked ⟨key, same.symm⟩
  rw [ofInside.eq_3 _ (noMark []) noMark, splitLastPoint?_append noPoint]
  cases resource with
  | nil => rfl
  | cons first rest => rfl

private theorem ofInside_pointless
    (unmarked : ¬ variableMark <+: characters)
    (noPoint : '.' ∉ characters) :
    ofInside characters = .error (.missingField (String.ofList characters)) := by
  have noMark : ∀ key, characters = 'v' :: 'a' :: 'r' :: ':' :: key → False :=
    fun key same => unmarked ⟨key, same.symm⟩
  rw [ofInside.eq_3 _ (noMark []) noMark, splitLastPoint?_eq_none_iff.mpr noPoint]

/-- A resource begins like a variable if it does so with a field behind it, since the
mark of a variable has no point in it. -/
private theorem mark_prefix_append_iff {resource field : List Char} :
    variableMark <+: resource ++ '.' :: field ↔ variableMark <+: resource := by
  constructor
  · intro marked
    rcases List.prefix_or_prefix_of_prefix marked (List.prefix_append resource _) with
      within | beyond
    · exact within
    · obtain ⟨rest, split⟩ := beyond
      cases rest with
      | nil => exact ⟨[], by simpa using split.symm⟩
      | cons first rest =>
          rw [← split] at marked
          obtain ⟨rfl, _⟩ :=
            List.cons_prefix_cons.mp ((List.prefix_append_right_inj resource).mp marked)
          have pointInMark : '.' ∈ variableMark := by
            rw [← split]
            simp
          exact absurd pointInMark (by decide)
  · exact fun marked => marked.trans (List.prefix_append resource _)

theorem inside_address (resource : String) :
    (address resource).inside.toList = resource.toList ++ '.' :: "address".toList := by
  rw [inside, String.toList_append]
  rfl

theorem inside_codeId (resource : String) :
    (codeId resource).inside.toList = resource.toList ++ '.' :: "code_id".toList := by
  rw [inside, String.toList_append]
  rfl

theorem inside_var (key : String) :
    (var key).inside.toList = variableMark ++ key.toList := by
  rw [inside, String.toList_append]
  rfl

/-- The inside of a legible placeholder is read as that placeholder. -/
theorem ofInside_inside (legible : placeholder.Legible) :
    ofInside placeholder.inside.toList = .ok placeholder := by
  cases placeholder with
  | address resource =>
      have named : resource.toList ≠ [] := by simpa [name] using legible.named
      have unmarked := legible.unmarked resource rfl
      rw [← mark_prefix_append_iff] at unmarked
      rw [inside_address, ofInside_field unmarked (by decide), if_neg named, if_pos rfl,
        String.ofList_toList]
  | codeId resource =>
      have named : resource.toList ≠ [] := by simpa [name] using legible.named
      have unmarked := legible.unmarked resource rfl
      rw [← mark_prefix_append_iff] at unmarked
      rw [inside_codeId, ofInside_field unmarked (by decide), if_neg named,
        if_neg (by decide), if_pos rfl, String.ofList_toList]
  | var key =>
      have named : key.toList ≠ [] := by simpa [name] using legible.named
      rw [inside_var, ofInside_variable, if_neg named, String.ofList_toList]

private theorem legible_of_resource?
    {resource : List Char}
    (refers : placeholder.resource? = some (String.ofList resource))
    (named : resource ≠ [])
    (unmarked : ¬ variableMark <+: resource) :
    placeholder.Legible := by
  constructor
  · cases placeholder with
    | var key => cases refers
    | _ =>
        cases refers
        simpa [name, ← String.toList_eq_nil_iff] using named
  · intro other refersToOther
    rw [refers] at refersToOther
    cases refersToOther
    rwa [String.toList_ofList]

/-- What is read from the inside of a slot is a legible placeholder with this inside. -/
theorem legible_of_ofInside (read : ofInside characters = .ok placeholder) :
    placeholder.Legible ∧ placeholder.inside.toList = characters := by
  by_cases marked : variableMark <+: characters
  · obtain ⟨key, rfl⟩ := marked
    rw [ofInside_variable] at read
    by_cases unnamed : key = []
    · simp [unnamed] at read
    · rw [if_neg unnamed] at read
      cases read
      refine ⟨⟨?_, ?_⟩, ?_⟩
      · simpa [name, ← String.toList_eq_nil_iff] using unnamed
      · intro resource refers
        cases refers
      · rw [inside_var, String.toList_ofList]
  · cases split : splitLastPoint? characters with
    | none =>
        rw [ofInside_pointless marked (splitLastPoint?_eq_none_iff.mp split)] at read
        cases read
    | some parts =>
        obtain ⟨resource, field⟩ := parts
        obtain ⟨rfl, noPoint⟩ := eq_append_of_splitLastPoint? split
        rw [ofInside_field marked noPoint] at read
        rw [mark_prefix_append_iff] at marked
        split_ifs at read with unnamed isAddress isCodeId
        · cases read
          refine ⟨legible_of_resource? rfl unnamed marked, ?_⟩
          rw [inside_address, String.toList_ofList, isAddress]
        · cases read
          refine ⟨legible_of_resource? rfl unnamed marked, ?_⟩
          rw [inside_codeId, String.toList_ofList, isCodeId]

/-- Reading the inside of a slot and writing a placeholder are inverse to each other. -/
theorem ofInside_eq_ok_iff :
    ofInside characters = .ok placeholder ↔
      placeholder.Legible ∧ placeholder.inside.toList = characters := by
  constructor
  · exact legible_of_ofInside
  · rintro ⟨legible, rfl⟩
    exact ofInside_inside legible

end Rollout.Placeholder
