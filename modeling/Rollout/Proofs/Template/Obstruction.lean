import Rollout.Proofs.Template.Leaves
import Rollout.Template.Resolution

/-!
Contract: when a template has no resolved form.

Owns:
- what stands in the way of resolving a text: a malformed slot anywhere in it, or
  else its first placeholder that stands for nothing;
- the fault of a value as that of its first string with something in the way.

Does not own: the resolved form itself.
-/

namespace Rollout.Scope

/-- What stands in the way of resolving a text. A malformed text is refused before
any placeholder is looked up. -/
inductive Obstructs (scope : Scope) (text : String) : ResolveFault → Prop where
  | malformed {fault : TemplateFault}
      (read : Template.pieces text = .error fault) :
      Obstructs scope text (.malformed fault)
  | unresolved {placeholder : Placeholder}
      (first : IsFirst (fun slot => scope.lookup? slot = none)
        (Template.slots text) placeholder) :
      Obstructs scope text (.unresolved placeholder)

variable {scope : Scope}

/-! ## Pieces -/

theorem resolvePlaceholder_eq_error_iff
    {placeholder : Placeholder}
    {fault : ResolveFault} :
    scope.resolvePlaceholder placeholder = .error fault ↔
      scope.lookup? placeholder = none ∧ fault = .unresolved placeholder := by
  unfold resolvePlaceholder
  cases scope.lookup? placeholder with
  | none => simp [eq_comm]
  | some text => simp

/-- Pieces cannot be resolved because of the first slot that stands for nothing. -/
theorem resolvePieces_eq_error_iff
    {pieces : List Piece}
    {fault : ResolveFault} :
    scope.resolvePieces pieces = .error fault ↔
      ∃ placeholder,
        IsFirst (fun slot => scope.lookup? slot = none)
          (pieces.filterMap Piece.placeholder?) placeholder ∧
        fault = .unresolved placeholder := by
  induction pieces with
  | nil => simp [resolvePieces]
  | cons piece rest inductionHypothesis =>
      cases piece with
      | literal text =>
          have literal : (Piece.literal text).placeholder? = none := rfl
          rw [List.filterMap_cons_none literal, ← inductionHypothesis]
          cases resolved : scope.resolvePieces rest <;> simp [resolvePieces, resolved]
      | slot placeholder =>
          have slot : (Piece.slot placeholder).placeholder? = some placeholder := rfl
          rw [List.filterMap_cons_some slot]
          cases known : scope.lookup? placeholder with
          | none =>
              have stopped : scope.resolvePieces (.slot placeholder :: rest) =
                  .error (.unresolved placeholder) := by
                simp only [resolvePieces, resolvePlaceholder, known]
              simp [stopped, isFirst_cons, known, eq_comm]
          | some text =>
              simp only [isFirst_cons, known, reduceCtorEq, false_and, not_false_eq_true,
                true_and, false_or, ← inductionHypothesis]
              cases resolved : scope.resolvePieces rest <;>
                simp [resolvePieces, resolvePlaceholder, known, resolved]

/-! ## Texts -/

theorem resolveText_eq_error_iff
    {text : String}
    {fault : ResolveFault} :
    scope.resolveText text = .error fault ↔ scope.Obstructs text fault := by
  cases read : Template.pieces text with
  | error malformed =>
      have slots : Template.slots text = [] := by simp only [Template.slots, read]
      simp only [resolveText, read, Except.error.injEq]
      constructor
      · intro same
        obtain rfl := same
        exact .malformed read
      · intro obstructs
        cases obstructs with
        | malformed other => rw [read] at other; cases other; rfl
        | unresolved first => simp [slots] at first
  | ok pieces =>
      have slots := Template.slots_of_pieces read
      simp only [resolveText, read, resolvePieces_eq_error_iff]
      constructor
      · intro unresolvedSlot
        obtain ⟨placeholder, first, rfl⟩ := unresolvedSlot
        exact .unresolved (slots ▸ first)
      · intro obstructs
        cases obstructs with
        | malformed other => rw [read] at other; cases other
        | unresolved first => exact ⟨_, slots ▸ first, rfl⟩

/-- A string of a value has no resolved form exactly if it has none as a text, also
where it is one slot for a code id. -/
theorem resolveString_eq_error_iff
    {text : String}
    {fault : ResolveFault} :
    scope.resolveString text = .error fault ↔ scope.Obstructs text fault := by
  rw [← resolveText_eq_error_iff]
  unfold resolveString resolveText
  split
  · rename_i malformed read
    simp only [read, Except.error.injEq]
  · rename_i resource read
    simp only [read, resolvePieces, resolvePlaceholder, lookup?]
    cases scope.registry.codeId? resource <;> simp
  · rename_i pieces _ read
    simp only [read]
    cases scope.resolvePieces pieces <;> simp

/-! ## Values -/

/-- A string of a value with something in the way. -/
def Obstructed
    (scope : Scope)
    (text : String) :
    Prop :=
  ∃ fault, scope.Obstructs text fault

/-- The fault of strings: what stands in the way of the first obstructed one. -/
def Blocks
    (scope : Scope)
    (texts : List String)
    (fault : ResolveFault) :
    Prop :=
  ∃ text, IsFirst scope.Obstructed texts text ∧ scope.Obstructs text fault

theorem blocks_singleton_iff
    {text : String}
    {fault : ResolveFault} :
    scope.Blocks [text] fault ↔ scope.Obstructs text fault := by
  unfold Blocks
  constructor
  · intro blocks
    obtain ⟨first, isFirst, obstructs⟩ := blocks
    rw [List.mem_singleton.mp isFirst.mem] at obstructs
    exact obstructs
  · intro obstructs
    exact ⟨text, isFirst_cons.mpr (Or.inl ⟨⟨fault, obstructs⟩, rfl⟩), obstructs⟩

theorem exists_blocks_iff {texts : List String} :
    (∃ fault, scope.Blocks texts fault) ↔ ∃ text ∈ texts, scope.Obstructed text := by
  constructor
  · intro blocked
    obtain ⟨fault, text, first, _⟩ := blocked
    exact ⟨text, first.mem, first.holds_item⟩
  · intro obstructedText
    obtain ⟨text, member, obstructed⟩ := obstructedText
    obtain ⟨first, isFirst⟩ := exists_isFirst member obstructed
    obtain ⟨fault, obstructs⟩ := isFirst.holds_item
    exact ⟨fault, first, isFirst, obstructs⟩

/-- The second of two lists has the fault only if the first one has none. -/
theorem blocks_append
    {left right : List String}
    {fault : ResolveFault} :
    scope.Blocks (left ++ right) fault ↔
      scope.Blocks left fault ∨
        ((¬ ∃ stop, scope.Blocks left stop) ∧ scope.Blocks right fault) := by
  rw [exists_blocks_iff]
  unfold Blocks
  simp only [isFirst_append, or_and_right, exists_or, and_assoc, exists_and_left,
    not_exists, not_and]

/-- A result made of two parts fails as their strings do, one list after the other:
the first part decides if it fails, and the second part otherwise. -/
private theorem blocks_append_of_parts
    {α β γ : Type}
    {first : Except ResolveFault α}
    {second : Except ResolveFault β}
    {whole : Except ResolveFault γ}
    {left right : List String}
    (stops : ∀ fault, first = .error fault → whole = .error fault)
    (goesOn : ∀ value, first = .ok value →
      ∀ fault, whole = .error fault ↔ second = .error fault)
    (firstFault : ∀ fault, first = .error fault ↔ scope.Blocks left fault)
    (secondFault : ∀ fault, second = .error fault ↔ scope.Blocks right fault)
    (fault : ResolveFault) :
    whole = .error fault ↔ scope.Blocks (left ++ right) fault := by
  simp only [blocks_append, ← firstFault, ← secondFault]
  cases first with
  | error stop => simp [stops stop rfl]
  | ok value => simp [goesOn value rfl]

mutual

/-- The fault of a value is that of its first obstructed string. -/
theorem resolve_eq_error_iff : ∀ (value : Json) (fault : ResolveFault),
    scope.resolve value = .error fault ↔ scope.Blocks value.leaves fault
  | .string text, fault => by
      simp only [resolve, Json.leaves, blocks_singleton_iff,
        resolveString_eq_error_iff]
  | .array items, fault => by
      simp only [resolve, Json.leaves, ← resolveItems_eq_error_iff items fault]
      cases scope.resolveItems items <;> simp
  | .object members, fault => by
      simp only [resolve, Json.leaves, ← resolveMembers_eq_error_iff members fault]
      cases scope.resolveMembers members <;> simp
  | .null, _ | .bool _, _ | .number _, _ => by
      simp [resolve, Json.leaves, Blocks]

theorem resolveItems_eq_error_iff : ∀ (items : List Json) (fault : ResolveFault),
    scope.resolveItems items = .error fault ↔
      scope.Blocks (Json.leavesOfItems items) fault
  | [], _ => by
      simp [resolveItems, Json.leavesOfItems, Blocks]
  | item :: rest, fault => by
      refine blocks_append_of_parts ?_ ?_ (resolve_eq_error_iff item)
        (resolveItems_eq_error_iff rest) fault
      · intro stop failed
        simp only [resolveItems, failed]
      · intro value resolved stop
        simp only [resolveItems, resolved]
        cases scope.resolveItems rest <;> simp

theorem resolveMembers_eq_error_iff :
    ∀ (members : List (String × Json)) (fault : ResolveFault),
      scope.resolveMembers members = .error fault ↔
        scope.Blocks (Json.leavesOfMembers members) fault
  | [], _ => by
      simp [resolveMembers, Json.leavesOfMembers, Blocks]
  | (name, value) :: rest, fault => by
      refine blocks_append_of_parts ?_ ?_ (resolve_eq_error_iff value)
        (resolveMembers_eq_error_iff rest) fault
      · intro stop failed
        simp only [resolveMembers, failed]
      · intro value resolved stop
        simp only [resolveMembers, resolved]
        cases scope.resolveMembers rest <;> simp

end

end Rollout.Scope
