import Rollout.Proofs.References
import Rollout.Proofs.Template.Obstruction
import Rollout.Provision

/-!
Contract: when a resource cannot be prepared for its instantiation.

Owns:
- that a preparation stops at the first obstructed text of the descriptor, and
  otherwise at funds that are no coin list;
- that its faults name the resource and are never those of a backend;
- that otherwise it has the resolved message and the coins of the resolved funds.

Does not own: the calls that send it.
-/

namespace Rollout.Provision

variable {scope : Scope} {descriptor : Descriptor}

private theorem fundsOf_eq_unresolved_iff
    {resource : String}
    {fault : ResolveFault} :
    fundsOf scope descriptor = .error (.unresolved resource fault) ↔
      resource = descriptor.name ∧ scope.Blocks descriptor.funds.toList fault := by
  unfold fundsOf
  cases descriptor.funds with
  | none => simp [Scope.Blocks]
  | some funds =>
      simp only [Option.toList, Scope.blocks_singleton_iff, ← Scope.resolveText_eq_error_iff]
      cases scope.resolveText funds with
      | error stop => simp [eq_comm]
      | ok resolved => cases parsed : Coin.parseList resolved <;> simp [parsed]

/-- What a preparation cannot resolve is what stands in the way of the first
obstructed text. -/
theorem prepare_eq_unresolved_iff
    {resource : String}
    {fault : ResolveFault} :
    prepare scope descriptor = .error (.unresolved resource fault) ↔
      resource = descriptor.name ∧ scope.Blocks descriptor.texts fault := by
  unfold prepare Descriptor.texts
  simp only [Scope.blocks_append, ← Scope.resolve_eq_error_iff]
  cases resolved : scope.resolve descriptor.template with
  | error stop => simp [eq_comm]
  | ok payload =>
      simp only [reduceCtorEq, exists_false, not_false_eq_true, true_and, false_or,
        ← fundsOf_eq_unresolved_iff]
      cases fundsOf scope descriptor <;> simp

private theorem fundsOf_fault
    {fault : ProvisionFault}
    (failed : fundsOf scope descriptor = .error fault) :
    (∃ stop, fault = .unresolved descriptor.name stop) ∨
      ∃ stop, fault = .invalidFunds descriptor.name stop := by
  unfold fundsOf at failed
  split at failed
  · cases failed
  · split at failed
    · cases failed
      exact Or.inl ⟨_, rfl⟩
    · split at failed <;> cases failed
      exact Or.inr ⟨_, rfl⟩

/-- A preparation fails for what it cannot resolve or for its funds. -/
theorem prepare_fault
    {fault : ProvisionFault}
    (failed : prepare scope descriptor = .error fault) :
    (∃ stop, fault = .unresolved descriptor.name stop) ∨
      ∃ stop, fault = .invalidFunds descriptor.name stop := by
  unfold prepare at failed
  split at failed
  · cases failed
    exact Or.inl ⟨_, rfl⟩
  · split at failed
    · rename_i fundsFailed
      cases failed
      exact fundsOf_fault fundsFailed
    · cases failed

/-! ## Successful preparations -/

/-- The coins that are sent with a resource: those of its funds, if it has any. -/
inductive Funded (scope : Scope) (descriptor : Descriptor) : List Coin → Prop where
  | unfunded (none : descriptor.funds = none) : Funded scope descriptor []
  | funded {funds resolved : String} {coins : List Coin}
      (some : descriptor.funds = some funds)
      (resolves : scope.resolveText funds = .ok resolved)
      (parses : Coin.parseList resolved = .ok coins) :
      Funded scope descriptor coins

private theorem funded_of_fundsOf
    {coins : List Coin}
    (given : fundsOf scope descriptor = .ok coins) :
    Funded scope descriptor coins := by
  unfold fundsOf at given
  split at given
  · rename_i none
    cases given
    exact .unfunded none
  · rename_i some
    split at given
    · cases given
    · rename_i resolves
      split at given
      · cases given
      · rename_i parses
        cases given
        exact .funded some resolves parses

/-- A preparation has the message of the resource as it resolves, and its coins. -/
theorem resolved_of_prepare
    {preparation : Preparation}
    (prepared : prepare scope descriptor = .ok preparation) :
    scope.resolve descriptor.template = .ok preparation.payload ∧
      Funded scope descriptor preparation.funds := by
  unfold prepare at prepared
  split at prepared
  · cases prepared
  · rename_i resolves
    split at prepared
    · cases prepared
    · rename_i funds
      cases prepared
      exact ⟨resolves, funded_of_fundsOf funds⟩

end Rollout.Provision
