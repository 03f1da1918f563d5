import Rollout.Cdp.Names
import Rollout.Proofs.Template.Grammar
import Rollout.Proofs.Template.Obstruction

/-!
Contract: the ways to name a target.

Owns:
- how a text that is one slot is read and filled;
- that a name and the slot for its address stand for the same address, or for none because
  of the same placeholder;
- that the slot for a variable stands for its value, whatever resources there are.

Does not own: targets with other text around a slot.
-/

namespace Rollout

variable {placeholder : Placeholder} {scope : Scope} {name key : String}

/-! ## Texts that are one slot -/

namespace Placeholder

private theorem legible_address
    (named : name ≠ "")
    (unmarked : ¬ variableMark <+: name.toList) :
    (address name).Legible where
  named := named
  unmarked := by
    intro resource refers
    cases refers
    exact unmarked

/-- Any key will do, also one that begins like a variable. -/
theorem legible_var (named : key ≠ "") : (var key).Legible where
  named := named
  unmarked := nofun

end Placeholder

namespace Template

private theorem opensSlot_text : opensSlot placeholder.text.toList = true := by
  rw [Placeholder.text, slotText_toList]
  rfl

/-- The text of a placeholder falls apart into one slot. -/
theorem pieces_text
    (legible : placeholder.Legible)
    (closable : '}' ∉ placeholder.name.toList) :
    pieces placeholder.text = .ok [.slot placeholder] := by
  have canonical : Canonical [.slot placeholder] :=
    ⟨List.forall_mem_singleton.mpr (.slot legible closable), .singleton _⟩
  have alone : written [.slot placeholder] = placeholder.text := by
    simp [written, Piece.text]
  exact pieces_eq_ok_iff.mpr ⟨canonical, alone⟩

end Template

/-! ## Targets -/

namespace Scope

private theorem resolvePlaceholder_eq_ok_iff {text : String} :
    scope.resolvePlaceholder placeholder = .ok text ↔ scope.lookup? placeholder = some text := by
  unfold resolvePlaceholder
  cases scope.lookup? placeholder <;> simp

/-- A text that is one slot stands for what its placeholder stands for. -/
theorem resolveText_text
    (legible : placeholder.Legible)
    (closable : '}' ∉ placeholder.name.toList) :
    scope.resolveText placeholder.text = scope.resolvePlaceholder placeholder := by
  rw [resolveText, Template.pieces_text legible closable]
  simp only [resolvePieces]
  cases scope.resolvePlaceholder placeholder with
  | error fault => rfl
  | ok text => simp

private theorem resolveTarget_text :
    scope.resolveTarget placeholder.text = scope.resolveText placeholder.text := by
  rw [resolveTarget, if_pos Template.opensSlot_text]

/-- A target that opens no slot is the name of a resource. -/
theorem resolveTarget_name (closed : ¬ ['$', '{'] <:+: name.toList) :
    scope.resolveTarget name = scope.resolvePlaceholder (.address name) := by
  rw [← Template.opensSlot_iff] at closed
  rw [resolveTarget, if_neg closed]

end Scope

namespace Cdp

/-- Both ways to name a resource agree. A name that opens no slot, closes none and does not
begin like a variable can stand in a slot as it is. As a target, the name and the slot for
its address then stand for the address on record, or for none because that very address is
missing. The slot for a variable, whose key may be any text that closes no slot, stands for
its value or lacks it, also if there is a resource of that name. -/
theorem resolveTarget_name_or_slot (registry : Registry) (bindings : Variables) :
    let scope : Scope := ⟨registry, bindings⟩
    (∀ name : String, name ≠ "" → ¬ ['$', '{'] <:+: name.toList → '}' ∉ name.toList →
      ¬ Placeholder.variableMark <+: name.toList →
        scope.resolveTarget (addressOf name) = scope.resolveTarget name ∧
          scope.resolveText (addressOf name) = scope.resolveTarget name ∧
          (∀ address, scope.resolveTarget name = .ok address ↔
            registry.address? name = some address) ∧
          ∀ fault, scope.resolveTarget name = .error fault ↔
            registry.address? name = none ∧ fault = .unresolved (.address name)) ∧
      ∀ key : String, key ≠ "" → '}' ∉ key.toList →
        (∀ value, scope.resolveTarget (var key) = .ok value ↔
            bindings.lookup key = some value) ∧
          (∀ fault, scope.resolveTarget (var key) = .error fault ↔
            bindings.lookup key = none ∧ fault = .unresolved (.var key)) ∧
          ∀ others : Registry,
            Scope.resolveTarget ⟨others, bindings⟩ (var key) = scope.resolveTarget (var key) := by
  intro scope
  constructor
  · intro name named closed closable unmarked
    have legible := Placeholder.legible_address named unmarked
    have byName : scope.resolveTarget name = scope.resolvePlaceholder (.address name) :=
      Scope.resolveTarget_name closed
    have bySlot : scope.resolveText (addressOf name) = scope.resolvePlaceholder (.address name) :=
      Scope.resolveText_text legible closable
    rw [addressOf, Scope.resolveTarget_text, ← addressOf, bySlot, byName]
    exact ⟨rfl, rfl, fun address => Scope.resolvePlaceholder_eq_ok_iff,
      fun fault => Scope.resolvePlaceholder_eq_error_iff⟩
  · intro key named closable
    have bySlot (others : Registry) : Scope.resolveTarget ⟨others, bindings⟩ (var key) =
        Scope.resolvePlaceholder ⟨others, bindings⟩ (.var key) := by
      rw [var, Scope.resolveTarget_text]
      exact Scope.resolveText_text (Placeholder.legible_var named) closable
    refine ⟨?_, ?_, ?_⟩
    · intro value
      rw [bySlot]
      exact Scope.resolvePlaceholder_eq_ok_iff
    · intro fault
      rw [bySlot]
      exact Scope.resolvePlaceholder_eq_error_iff
    · intro others
      rw [bySlot, bySlot]
      rfl

/-- Points, colons and dollar signs in a name, and a key that opens a slot and has the name
of a resource. -/
theorem resolveTarget_name_or_slot_of_oddNames :
    let registry : Registry :=
      ⟨[.ofReuse "pool.code_id:$" "sei1pool" none, .ofReuse "var:$\x7bpool" "sei1hub" none]⟩
    let scope : Scope := ⟨registry, [("var:$\x7bpool", "sei1owner")]⟩
    (scope.resolveTarget (addressOf "pool.code_id:$") = .ok "sei1pool" ∧
        scope.resolveTarget "pool.code_id:$" = .ok "sei1pool") ∧
      scope.resolveText (addressOf "va$r") = .error (.unresolved (.address "va$r")) ∧
      scope.resolveTarget (var "var:$\x7bpool") = .ok "sei1owner" ∧
      scope.resolveTarget (var "pool.code_id:$") =
        .error (.unresolved (.var "pool.code_id:$")) := by
  intro registry scope
  obtain ⟨names, keys⟩ :=
    resolveTarget_name_or_slot registry [("var:$\x7bpool", "sei1owner")]
  obtain ⟨sameTarget, _, found, _⟩ := names "pool.code_id:$" (by decide) (by decide) (by decide)
    (by decide)
  obtain ⟨_, sameText, _, missing⟩ := names "va$r" (by decide) (by decide) (by decide) (by decide)
  have isPool := (found "sei1pool").mpr (by decide)
  refine ⟨⟨sameTarget.trans isPool, isPool⟩, sameText.trans ?_, ?_, ?_⟩
  · exact (missing _).mpr ⟨by decide, rfl⟩
  · exact ((keys "var:$\x7bpool" (by decide) (by decide)).1 "sei1owner").mpr (by decide)
  · exact ((keys "pool.code_id:$" (by decide) (by decide)).2.1 _).mpr ⟨by decide, rfl⟩

end Cdp

end Rollout
