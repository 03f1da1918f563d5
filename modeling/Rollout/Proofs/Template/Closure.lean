import Rollout.Proofs.Json.Members
import Rollout.Proofs.Template.Filling
import Rollout.Proofs.Template.Grammar
import Rollout.Text.Base64

/-!
Contract: templates that name only certain placeholders.

Owns:
- texts, values and targets within some placeholders, which can be computed;
- that a text that opens no slot is within any, such as one in base 64;
- that they have a resolved form wherever all of these placeholders are known.

Does not own: which placeholders are known in a run.
-/

namespace Rollout

variable {allowed : Placeholder → Prop} {scope : Scope} {text target : String} {value : Json}

namespace Template

instance (text : String) : Decidable (WellFormed text) :=
  match read : pieces text with
  | .ok _ => .isTrue (wellFormed_of_pieces read)
  | .error _ => .isFalse (not_wellFormed_of_pieces read)

/-- All slots of a text are closed and hold certain placeholders. -/
def Within (allowed : Placeholder → Prop) (text : String) : Prop :=
  WellFormed text ∧ ∀ placeholder ∈ slots text, allowed placeholder

instance [DecidablePred allowed] : DecidablePred (Within allowed) := fun _ =>
  inferInstanceAs (Decidable (_ ∧ _))

/-- A target that opens no slot is the name of a resource and stands for its address. -/
def TargetWithin (allowed : Placeholder → Prop) (target : String) : Prop :=
  if opensSlot target.toList then Within allowed target else allowed (.address target)

instance [DecidablePred allowed] : DecidablePred (TargetWithin allowed) := fun target =>
  inferInstanceAs (Decidable (if opensSlot target.toList then _ else _))

/-! ## Texts without slots -/

private theorem within_of_closed (closed : opensSlot text.toList = false) :
    Within allowed text := by
  have read : pieces text = .ok (Piece.ofCollected text.toList.reverse) := by
    rw [pieces, piecesAfterLiteral_closed closed, List.append_nil]
  have noSlots : slots text = [] := by
    rw [slots_of_pieces read]
    cases text.toList.reverse <;> rfl
  exact ⟨wellFormed_of_pieces read, by simp [noSlots]⟩

private theorem base64Digit_ne_dollar (digit : Nat) : '$' ≠ Text.base64Digit digit := by
  unfold Text.base64Digit
  rw [List.getD_eq_getElem?_getD]
  cases found : Text.base64Alphabet[digit]? with
  | none => decide
  | some character =>
      have noDollar : '$' ∉ Text.base64Alphabet := by decide +kernel
      exact fun dollar => noDollar (dollar ▸ List.mem_of_getElem? found)

private theorem dollar_notMem_base64Characters (bytes : List UInt8) :
    '$' ∉ Text.base64Characters bytes := by
  induction bytes using Text.base64Characters.induct with
  | case1 => exact List.not_mem_nil
  | case2 => simp [Text.base64Characters, base64Digit_ne_dollar]
  | case3 => simp [Text.base64Characters, base64Digit_ne_dollar]
  | case4 first second third rest inductionHypothesis =>
      simp [Text.base64Characters, base64Digit_ne_dollar, inductionHypothesis]

/-- Text in base 64 has no slots, whatever it stands for. -/
theorem base64_within (bytes : List UInt8) : Within allowed (Text.base64 bytes) := by
  apply within_of_closed
  rw [Text.base64, String.toList_ofList, Bool.eq_false_iff]
  intro opens
  have dollar : '$' ∈ Text.base64Characters bytes :=
    (opensSlot_iff.mp opens).subset List.mem_cons_self
  exact dollar_notMem_base64Characters bytes dollar

end Template

/-! ## Values -/

def Json.Within (allowed : Placeholder → Prop) (value : Json) : Prop :=
  ∀ text ∈ value.leaves, Template.Within allowed text

instance [DecidablePred allowed] : DecidablePred (Json.Within allowed) := fun value =>
  inferInstanceAs (Decidable (∀ text ∈ value.leaves, _))

namespace Json

private theorem mem_leavesOfMembers {members : List (String × Json)} :
    text ∈ leavesOfMembers members ↔ ∃ member ∈ members, text ∈ member.2.leaves := by
  induction members with
  | nil => simp [leavesOfMembers]
  | cons first rest inductionHypothesis => simp [leavesOfMembers, inductionHypothesis]

theorem within_string (within : Template.Within allowed text) :
    (Json.string text).Within allowed :=
  List.forall_mem_singleton.mpr within

theorem within_ofMembers
    {members : List (String × Json)}
    (each : ∀ member ∈ members, member.2.Within allowed) :
    (ofMembers members).Within allowed := by
  intro text inValue
  obtain ⟨member, inOrder, inMember⟩ := mem_leavesOfMembers.mp inValue
  exact each member (mem_orderMembers inOrder) text inMember

end Json

/-! ## Known placeholders -/

namespace Scope

def KnowsAll (scope : Scope) (allowed : Placeholder → Prop) : Prop :=
  ∀ placeholder, allowed placeholder → scope.Knows placeholder

private theorem KnowsAll.not_obstructed
    (knowsAll : scope.KnowsAll allowed)
    (within : Template.Within allowed text) :
    ¬ scope.Obstructed text :=
  not_obstructed_iff.mpr ⟨within.1, fun slot inText => knowsAll slot (within.2 slot inText)⟩

theorem KnowsAll.exists_resolveText
    (knowsAll : scope.KnowsAll allowed)
    (within : Template.Within allowed text) :
    ∃ resolved, scope.resolveText text = .ok resolved :=
  exists_resolveText_eq_ok_iff_not_obstructed.mpr (knowsAll.not_obstructed within)

theorem KnowsAll.exists_resolve
    (knowsAll : scope.KnowsAll allowed)
    (within : value.Within allowed) :
    ∃ resolved, scope.resolve value = .ok resolved :=
  (exists_resolve_eq_ok_iff_not_obstructed value).mpr fun text inValue =>
    knowsAll.not_obstructed (within text inValue)

theorem KnowsAll.exists_resolveTarget
    (knowsAll : scope.KnowsAll allowed)
    (within : Template.TargetWithin allowed target) :
    ∃ address, scope.resolveTarget target = .ok address := by
  unfold Template.TargetWithin at within
  unfold resolveTarget
  split
  · rename_i opens
    rw [if_pos opens] at within
    exact knowsAll.exists_resolveText within
  · rename_i closed
    rw [if_neg closed] at within
    have known : scope.lookup? (.address target) ≠ none := fun absent =>
      lookup?_eq_none_iff.mp absent (knowsAll _ within)
    obtain ⟨address, found⟩ := Option.ne_none_iff_exists'.mp known
    exact ⟨address, by simp only [resolvePlaceholder, found]⟩

end Scope

end Rollout
