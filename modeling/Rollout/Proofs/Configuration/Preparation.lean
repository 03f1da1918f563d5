import Rollout.Configuration

/-!
Contract: what is sent for a change, and when nothing is.

Owns:
- the address, the payload and the coins of a change, each as it resolves;
- that a preparation fails for the first of these that does not resolve, or for funds
  that are no coin list, and works otherwise.

Does not own: the calls that make a change.
-/

namespace Rollout.Configuration

variable {scope : Scope} {change : Change} {preparation : Preparation}

/-- The coins that are sent with a change: those of its funds, if it has any. -/
inductive Funded (scope : Scope) : ChangeKind → List Coin → Prop where
  | migration (artifact : String) : Funded scope (.migrate artifact) []
  | unfunded : Funded scope (.execute none) []
  | funded {funds resolved : String} {coins : List Coin}
      (resolves : scope.resolveText funds = .ok resolved)
      (parses : Coin.parseList resolved = .ok coins) :
      Funded scope (.execute (some funds)) coins

/-- Why the funds of a change give no coins. -/
inductive Unfunded (scope : Scope) : ChangeKind → ChangeCause → Prop where
  | unresolved {funds : String} {fault : ResolveFault}
      (unresolved : scope.resolveText funds = .error fault) :
      Unfunded scope (.execute (some funds)) (.unresolved fault)
  | unparsed {funds resolved : String} {fault : CoinFault}
      (resolves : scope.resolveText funds = .ok resolved)
      (unparsed : Coin.parseList resolved = .error fault) :
      Unfunded scope (.execute (some funds)) (.invalidFunds fault)

/-- A change is sent with its target, its payload and its funds as they resolve. -/
structure Prepared (scope : Scope) (change : Change) (preparation : Preparation) : Prop where
  address : scope.resolveTarget change.target = .ok preparation.address
  payload : scope.resolve change.payload = .ok preparation.payload
  funds : Funded scope change.kind preparation.funds

/-- Why nothing is sent for a change. Its target comes first, then its payload, then its
funds. -/
inductive Unprepared (scope : Scope) (change : Change) : ChangeCause → Prop where
  | target {fault : ResolveFault}
      (unresolved : scope.resolveTarget change.target = .error fault) :
      Unprepared scope change (.unresolved fault)
  | payload {address : String} {fault : ResolveFault}
      (resolves : scope.resolveTarget change.target = .ok address)
      (unresolved : scope.resolve change.payload = .error fault) :
      Unprepared scope change (.unresolved fault)
  | funds {address : String} {payload : Json} {cause : ChangeCause}
      (resolves : scope.resolveTarget change.target = .ok address)
      (fills : scope.resolve change.payload = .ok payload)
      (unfunded : Unfunded scope change.kind cause) :
      Unprepared scope change cause

private theorem funded_of_fundsOf
    {kind : ChangeKind}
    {coins : List Coin}
    (given : fundsOf scope kind = .ok coins) :
    Funded scope kind coins := by
  unfold fundsOf at given
  split at given
  · cases given
    exact .migration _
  · cases given
    exact .unfunded
  · split at given
    · cases given
    · rename_i resolves
      split at given
      · cases given
      · rename_i parses
        cases given
        exact .funded resolves parses

private theorem unfunded_of_fundsOf
    {kind : ChangeKind}
    {cause : ChangeCause}
    (given : fundsOf scope kind = .error cause) :
    Unfunded scope kind cause := by
  unfold fundsOf at given
  split at given
  · cases given
  · cases given
  · split at given
    · rename_i unresolved
      cases given
      exact .unresolved unresolved
    · rename_i resolves
      split at given
      · rename_i unparsed
        cases given
        exact .unparsed resolves unparsed
      · cases given

private theorem Funded.fundsOf_eq
    {kind : ChangeKind}
    {coins : List Coin}
    (funded : Funded scope kind coins) :
    fundsOf scope kind = .ok coins := by
  cases funded with
  | migration artifact => rfl
  | unfunded => rfl
  | funded resolves parses => simp only [fundsOf, resolves, parses]

private theorem Unfunded.fundsOf_eq
    {kind : ChangeKind}
    {cause : ChangeCause}
    (unfunded : Unfunded scope kind cause) :
    fundsOf scope kind = .error cause := by
  cases unfunded with
  | unresolved unresolved => simp only [fundsOf, unresolved]
  | unparsed resolves unparsed => simp only [fundsOf, resolves, unparsed]

/-- What is prepared for a change is what is sent for it. -/
theorem prepared_of_prepare (given : prepare scope change = .ok preparation) :
    Prepared scope change preparation := by
  unfold prepare at given
  split at given
  · cases given
  · rename_i resolves
    split at given
    · cases given
    · rename_i fills
      split at given
      · cases given
      · rename_i funds
        cases given
        exact ⟨resolves, fills, funded_of_fundsOf funds⟩

/-- If nothing is prepared for a change, nothing can be sent for it. -/
theorem unprepared_of_prepare
    {cause : ChangeCause}
    (given : prepare scope change = .error cause) :
    Unprepared scope change cause := by
  unfold prepare at given
  split at given
  · rename_i unresolved
    cases given
    exact .target unresolved
  · rename_i resolves
    split at given
    · rename_i unresolved
      cases given
      exact .payload resolves unresolved
    · rename_i fills
      split at given
      · rename_i noFunds
        cases given
        exact .funds resolves fills (unfunded_of_fundsOf noFunds)
      · cases given

/-- A change is prepared exactly if it can be sent. -/
theorem prepare_eq_ok_iff :
    prepare scope change = .ok preparation ↔ Prepared scope change preparation := by
  constructor
  · exact prepared_of_prepare
  · intro prepared
    simp only [prepare, prepared.address, prepared.payload, prepared.funds.fundsOf_eq]

/-- A change is refused exactly for what stands in the way of sending it. -/
theorem prepare_eq_error_iff {cause : ChangeCause} :
    prepare scope change = .error cause ↔ Unprepared scope change cause := by
  constructor
  · exact unprepared_of_prepare
  · intro unprepared
    cases unprepared with
    | target unresolved => simp only [prepare, unresolved]
    | payload resolves unresolved => simp only [prepare, resolves, unresolved]
    | funds resolves fills unfunded =>
        simp only [prepare, resolves, fills, unfunded.fundsOf_eq]

end Rollout.Configuration
