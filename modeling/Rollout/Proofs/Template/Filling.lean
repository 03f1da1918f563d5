import Mathlib.Data.List.Forall2
import Rollout.Proofs.Registry
import Rollout.Proofs.Template.Obstruction

/-!
Contract: when a value has a resolved form, and which one it is.

Owns:
- what must be known of a placeholder so that it stands for something;
- filled values, which have the shape of the given ones and differ from them in strings
  alone;
- that a value can be resolved exactly if the scan of its placeholders succeeds and all
  that it finds are known.

Does not own: the fault of a value without a resolved form.
-/

namespace Rollout

variable {scope : Scope} {text : String} {placeholder : Placeholder}

namespace Template

private theorem placeholdersOfTexts_eq_ok_iff
    {texts : List String}
    {found : List Placeholder} :
    placeholdersOfTexts texts = .ok found ↔
      (∀ text ∈ texts, WellFormed text) ∧ found = texts.flatMap slots := by
  constructor
  · intro scanned
    have wellFormed : ∀ text ∈ texts, WellFormed text := by
      by_contra notAll
      rcases exists_isFirst_not notAll with ⟨malformed, first⟩
      rcases exists_fault_of_not_wellFormed first.holds_item with ⟨fault, read⟩
      have failed := placeholdersOfTexts_eq_error_iff.mpr ⟨malformed, first, read⟩
      rw [scanned] at failed
      cases failed
    rw [placeholdersOfTexts_of_wellFormed wellFormed] at scanned
    exact ⟨wellFormed, (Except.ok.inj scanned).symm⟩
  · rintro ⟨wellFormed, rfl⟩
    exact placeholdersOfTexts_of_wellFormed wellFormed

end Template

namespace Scope

/-! ## What is known -/

/-- What a placeholder asks for is known: the resource is on record, or it is with a code
id, or the variable has a value. -/
def Knows (scope : Scope) : Placeholder → Prop
  | .address resource => ∃ entry, scope.registry.find? resource = some entry
  | .codeId resource => ∃ entry codeId,
      scope.registry.find? resource = some entry ∧ entry.codeId = some codeId
  | .var key => key ∈ scope.bindings.map Prod.fst

theorem lookup?_eq_none_iff : scope.lookup? placeholder = none ↔ ¬ scope.Knows placeholder := by
  cases placeholder with
  | address resource =>
      simp only [lookup?, Registry.address?, Knows, Option.map_eq_none_iff]
      cases scope.registry.find? resource <;> simp
  | codeId resource =>
      simp only [lookup?, Registry.codeId?, Knows, Option.map_eq_none_iff]
      cases scope.registry.find? resource with
      | none => simp
      | some entry => cases known : entry.codeId <;> simp [known]
  | var key =>
      simp only [lookup?, Knows, List.lookup_eq_none_iff, List.mem_map, not_exists, not_and]
      constructor
      · intro absent binding member same
        have different := absent binding member
        simp [same] at different
      · intro absent binding member
        have different := absent binding member
        simpa using Ne.symm different

theorem not_obstructed_iff :
    ¬ scope.Obstructed text ↔
      Template.WellFormed text ∧ ∀ slot ∈ Template.slots text, scope.Knows slot := by
  constructor
  · intro clear
    constructor
    · by_contra malformed
      rcases Template.exists_fault_of_not_wellFormed malformed with ⟨fault, read⟩
      exact clear ⟨_, .malformed read⟩
    · intro slot member
      by_contra unknown
      have absent : scope.lookup? slot = none := lookup?_eq_none_iff.mpr unknown
      have someAbsent : ∃ placeholder,
          IsFirst (fun slot => scope.lookup? slot = none) (Template.slots text) placeholder :=
        exists_isFirst member absent
      rcases someAbsent with ⟨placeholder, first⟩
      exact clear ⟨_, .unresolved first⟩
  · rintro ⟨wellFormed, known⟩ ⟨fault, obstructs⟩
    cases obstructs with
    | malformed read => exact Template.not_wellFormed_of_pieces read wellFormed
    | unresolved first => exact lookup?_eq_none_iff.mp first.holds_item (known _ first.mem)

theorem exists_resolveText_eq_ok_iff_not_obstructed :
    (∃ resolved, scope.resolveText text = .ok resolved) ↔ ¬ scope.Obstructed text := by
  unfold Obstructed
  simp only [← resolveText_eq_error_iff]
  cases scope.resolveText text <;> simp

theorem exists_resolve_eq_ok_iff_not_obstructed (value : Json) :
    (∃ resolved, scope.resolve value = .ok resolved) ↔
      ∀ text ∈ value.leaves, ¬ scope.Obstructed text := by
  have fails_iff : (∃ fault, scope.resolve value = .error fault) ↔
      ∃ text ∈ value.leaves, scope.Obstructed text := by
    simp only [resolve_eq_error_iff]
    exact exists_blocks_iff
  cases resolved : scope.resolve value with
  | ok filled =>
      have noneObstructed : ¬ ∃ text ∈ value.leaves, scope.Obstructed text := by
        rw [← fails_iff, resolved]
        simp
      simpa using noneObstructed
  | error fault =>
      have someObstructed := fails_iff.mp ⟨fault, resolved⟩
      simpa using someObstructed

/-- A value can be resolved exactly if its placeholders can be listed and are all known. -/
theorem exists_resolve_eq_ok_iff (value : Json) :
    (∃ resolved, scope.resolve value = .ok resolved) ↔
      ∃ found, Template.placeholders value = .ok found ∧
        ∀ placeholder ∈ found, scope.Knows placeholder := by
  rw [exists_resolve_eq_ok_iff_not_obstructed, Template.placeholders_eq]
  simp only [not_obstructed_iff, Template.placeholdersOfTexts_eq_ok_iff]
  constructor
  · intro clear
    refine ⟨value.leaves.flatMap Template.slots, ⟨?_, rfl⟩, ?_⟩
    · exact fun text member => (clear text member).1
    · intro placeholder member
      rcases List.mem_flatMap.mp member with ⟨text, inLeaves, inText⟩
      exact (clear text inLeaves).2 placeholder inText
  · rintro ⟨found, ⟨wellFormed, rfl⟩, known⟩ text member
    refine ⟨wellFormed text member, ?_⟩
    intro slot inText
    apply known
    exact List.mem_flatMap.mpr ⟨text, member, inText⟩

/-! ## Filled values -/

/-- A value and what it becomes. Both have the same shape: items correspond to items, and
members to members of the same names. Only strings change. -/
inductive Filled (scope : Scope) : Json → Json → Prop where
  | null : Filled scope .null .null
  | bool (value : Bool) : Filled scope (.bool value) (.bool value)
  | number (value : Json.Number) : Filled scope (.number value) (.number value)
  /-- A string that is one slot for a code id becomes that number. -/
  | code {text resource : String} {codeId : CodeId}
      (alone : Template.pieces text = .ok [.slot (.codeId resource)])
      (known : scope.registry.codeId? resource = some codeId) :
      Filled scope (.string text) (Json.ofNat codeId.toNat)
  /-- Any other string becomes its resolved text. -/
  | text {text resolved : String}
      (notAlone : ∀ resource, Template.pieces text ≠ .ok [.slot (.codeId resource)])
      (filled : scope.resolveText text = .ok resolved) :
      Filled scope (.string text) (.string resolved)
  | array {items resolved : List Json}
      (filled : List.Forall₂ (Filled scope) items resolved) :
      Filled scope (.array items) (.array resolved)
  | object {members resolved : List (String × Json)}
      (names : resolved.map Prod.fst = members.map Prod.fst)
      (filled : List.Forall₂ (Filled scope)
        (members.map Prod.snd) (resolved.map Prod.snd)) :
      Filled scope (.object members) (.object resolved)

private theorem resolveString_eq_ok_iff_of_alone
    {resource : String}
    {resolved : Json}
    (alone : Template.pieces text = .ok [.slot (.codeId resource)]) :
    scope.resolveString text = .ok resolved ↔
      ∃ codeId, scope.registry.codeId? resource = some codeId ∧
        resolved = Json.ofNat codeId.toNat := by
  unfold resolveString
  split
  · rename_i fault read
    rw [alone] at read
    cases read
  · rename_i other read
    rw [alone] at read
    cases read
    cases scope.registry.codeId? resource <;> simp [eq_comm]
  · rename_i pieces notAlone read
    rw [alone] at read
    cases read
    exact absurd rfl (notAlone resource)

private theorem resolveString_eq_ok_iff_of_notAlone
    {resolved : Json}
    (notAlone : ∀ resource, Template.pieces text ≠ .ok [.slot (.codeId resource)]) :
    scope.resolveString text = .ok resolved ↔
      ∃ filled, scope.resolveText text = .ok filled ∧ resolved = .string filled := by
  unfold resolveString
  split
  · rename_i fault read
    have stops : scope.resolveText text = .error (.malformed fault) := by
      simp only [resolveText, read]
    simp [stops]
  · rename_i resource read
    exact absurd read (notAlone resource)
  · rename_i pieces _ read
    have goesOn : scope.resolveText text = scope.resolvePieces pieces := by
      simp only [resolveText, read]
    rw [goesOn]
    cases scope.resolvePieces pieces <;> simp [eq_comm]

private theorem resolveString_eq_ok_iff {resolved : Json} :
    scope.resolveString text = .ok resolved ↔ scope.Filled (.string text) resolved := by
  by_cases lone : ∃ resource, Template.pieces text = .ok [.slot (.codeId resource)]
  · rcases lone with ⟨resource, alone⟩
    rw [resolveString_eq_ok_iff_of_alone alone]
    constructor
    · rintro ⟨codeId, known, rfl⟩
      exact .code alone known
    · intro filled
      cases filled with
      | code otherAlone known =>
          rw [alone] at otherAlone
          cases otherAlone
          exact ⟨_, known, rfl⟩
      | text notAlone _ => exact absurd alone (notAlone resource)
  · have notAlone : ∀ resource, Template.pieces text ≠ .ok [.slot (.codeId resource)] :=
      not_exists.mp lone
    rw [resolveString_eq_ok_iff_of_notAlone notAlone]
    constructor
    · rintro ⟨filledText, resolves, rfl⟩
      exact .text notAlone resolves
    · intro filled
      cases filled with
      | code alone _ => exact absurd alone (notAlone _)
      | text _ resolves => exact ⟨_, resolves, rfl⟩

/-- A list is resolved if its head and its rest are. -/
private theorem resolveItems_cons_eq_ok_iff
    {item : Json}
    {rest resolved : List Json} :
    scope.resolveItems (item :: rest) = .ok resolved ↔
      ∃ first others, scope.resolve item = .ok first ∧
        scope.resolveItems rest = .ok others ∧ resolved = first :: others := by
  rw [resolveItems]
  cases scope.resolve item with
  | error fault => simp
  | ok first => cases scope.resolveItems rest <;> simp [eq_comm]

private theorem resolveMembers_cons_eq_ok_iff
    {name : String}
    {value : Json}
    {rest resolved : List (String × Json)} :
    scope.resolveMembers ((name, value) :: rest) = .ok resolved ↔
      ∃ first others, scope.resolve value = .ok first ∧
        scope.resolveMembers rest = .ok others ∧ resolved = (name, first) :: others := by
  rw [resolveMembers]
  cases scope.resolve value with
  | error fault => simp
  | ok first => cases scope.resolveMembers rest <;> simp [eq_comm]

mutual

/-- Resolution fills a value. -/
theorem resolve_eq_ok_iff : ∀ value resolved : Json,
    scope.resolve value = .ok resolved ↔ scope.Filled value resolved
  | .string text, resolved => by
      rw [resolve, resolveString_eq_ok_iff]
  | .array items, resolved => by
      have itemsFilled := resolveItems_eq_ok_iff items
      rw [resolve]
      constructor
      · intro resolves
        split at resolves
        · rename_i filled filledItems
          cases resolves
          exact .array ((itemsFilled filled).mp filledItems)
        · cases resolves
      · intro filled
        cases filled with
        | array filledItems => rw [(itemsFilled _).mpr filledItems]
  | .object members, resolved => by
      have membersFilled := resolveMembers_eq_ok_iff members
      rw [resolve]
      constructor
      · intro resolves
        split at resolves
        · rename_i filled filledMembers
          cases resolves
          rcases (membersFilled filled).mp filledMembers with ⟨names, values⟩
          exact .object names values
        · cases resolves
      · intro filled
        cases filled with
        | object names values => rw [(membersFilled _).mpr ⟨names, values⟩]
  | .null, resolved => by
      rw [resolve, Except.ok.injEq]
      constructor
      · rintro rfl
        exact .null
      · rintro ⟨⟩
        rfl
  | .bool value, resolved => by
      rw [resolve, Except.ok.injEq]
      constructor
      · rintro rfl
        exact .bool value
      · rintro ⟨⟩
        rfl
  | .number value, resolved => by
      rw [resolve, Except.ok.injEq]
      constructor
      · rintro rfl
        exact .number value
      · rintro ⟨⟩
        rfl

theorem resolveItems_eq_ok_iff : ∀ items resolved : List Json,
    scope.resolveItems items = .ok resolved ↔ List.Forall₂ scope.Filled items resolved
  | [], resolved => by
      rw [resolveItems, Except.ok.injEq, List.forall₂_nil_left_iff, eq_comm]
  | item :: rest, resolved => by
      rw [resolveItems_cons_eq_ok_iff, List.forall₂_cons_left_iff]
      simp only [resolve_eq_ok_iff item, resolveItems_eq_ok_iff rest]

theorem resolveMembers_eq_ok_iff : ∀ members resolved : List (String × Json),
    scope.resolveMembers members = .ok resolved ↔
      resolved.map Prod.fst = members.map Prod.fst ∧
        List.Forall₂ scope.Filled (members.map Prod.snd) (resolved.map Prod.snd)
  | [], resolved => by
      rw [resolveMembers, Except.ok.injEq, List.map_nil, List.map_nil, List.map_eq_nil_iff]
      constructor
      · rintro rfl
        exact ⟨rfl, .nil⟩
      · rintro ⟨noMembers, _⟩
        exact noMembers.symm
  | (name, value) :: rest, resolved => by
      rw [resolveMembers_cons_eq_ok_iff]
      simp only [resolve_eq_ok_iff value, resolveMembers_eq_ok_iff rest]
      constructor
      · rintro ⟨first, others, filled, ⟨names, values⟩, rfl⟩
        exact ⟨by simp [names], .cons filled values⟩
      · rintro ⟨names, values⟩
        rcases resolved with _ | ⟨⟨otherName, first⟩, others⟩
        · cases names
        · rcases List.cons.inj names with ⟨sameName, otherNames⟩
          cases values with
          | cons filled otherValues =>
              cases sameName
              exact ⟨first, others, filled, ⟨otherNames, otherValues⟩, rfl⟩

end

/-! ## Scan and resolution -/

/-- The scan of a value and its resolution agree. A placeholder stands for nothing exactly
if what it asks for is not known. A value can be resolved exactly if its placeholders can
be listed and are all known, and then it becomes its filled value. Otherwise its fault is
that of its first string with something in the way: a malformed slot, or else the first
placeholder that is not known. -/
theorem resolve_agrees_with_placeholders (scope : Scope) (value : Json) :
    (∀ placeholder, scope.lookup? placeholder = none ↔ ¬ scope.Knows placeholder) ∧
      ((∃ resolved, scope.resolve value = .ok resolved) ↔
        ∃ found, Template.placeholders value = .ok found ∧
          ∀ placeholder ∈ found, scope.Knows placeholder) ∧
      (∀ resolved, scope.resolve value = .ok resolved ↔ scope.Filled value resolved) ∧
      (∀ fault, scope.resolve value = .error fault ↔ scope.Blocks value.leaves fault) := by
  refine ⟨?_, exists_resolve_eq_ok_iff value, resolve_eq_ok_iff value,
    resolve_eq_error_iff value⟩
  intro placeholder
  exact lookup?_eq_none_iff

end Scope

end Rollout
