import Rollout.Proofs.Cdp.Seeding
import Rollout.Proofs.Text.Literals
import Rollout.Proofs.Text.Parts

/-!
Contract: what the variables of an environment do to the seeds of resources.

Owns:
- which values of variables count, and the texts that stand for a code id;
- that the first variable that should hold a code id and does not is the fault, and that
  there is no other;
- field by field, which seed a resource has when there is no fault.

Does not own: the names of the variables, and where the earlier seeds are from.
-/

namespace Rollout.Cdp

variable {environment : Environment} {names : List String} {seeds later : Seeds}
  {name text : String} {codeId : CodeId}

/-! ## Values -/

/-- An environment has a value for a variable. The empty text is none. -/
def HasValue (environment : Environment) (variableName text : String) : Prop :=
  environment variableName = some text ∧ text ≠ ""

private theorem get?_eq_some_iff {variableName : String} :
    environment.get? variableName = some text ↔ HasValue environment variableName text := by
  rw [Environment.get?, Option.filter_eq_some_iff, HasValue]
  simp

/-- A text stands for a code id: without the blank characters around it, it is a literal of
a number of 64 bits. -/
def StandsFor (text : String) (codeId : CodeId) : Prop :=
  ∃ trimmed, Text.Trims text.toList trimmed ∧ Text.IsLiteral UInt64.size trimmed codeId.toNat

private theorem codeIdOfText_eq_ok_iff :
    codeIdOfText text = .ok codeId ↔ StandsFor text codeId := by
  have literal : StandsFor text codeId ↔
      Text.readUnsigned UInt64.size (Text.trim text) = .ok codeId.toNat := by
    rw [Text.readUnsigned_eq_ok_iff (by decide), Text.trim, String.toList_ofList]
    simp [StandsFor, Text.trims_iff]
  rw [literal, codeIdOfText]
  cases read : Text.readUnsigned UInt64.size (Text.trim text) with
  | error fault => simp
  | ok number =>
      have inRange : number < UInt64.size :=
        ((Text.readUnsigned_eq_ok_iff (by decide)).mp read).lt
      simp only [Except.ok.injEq]
      constructor
      · rintro rfl
        exact (UInt64.toNat_ofNat_of_lt inRange).symm
      · rintro rfl
        exact UInt64.ofNat_toNat

/-- The variable that should hold the code id of a resource has a value, but one that
stands for no code id. -/
def IllGiven (environment : Environment) (resource : String) : Prop :=
  ∃ text, HasValue environment (codeIdSeedName resource) text ∧
    ¬ ∃ codeId, StandsFor text codeId

private theorem invalidCodeId_iff_illGiven :
    InvalidCodeId environment name ↔ IllGiven environment name := by
  unfold InvalidCodeId IllGiven environmentCodeId
  simp only [← get?_eq_some_iff, ← codeIdOfText_eq_ok_iff]
  cases environment.get? (codeIdSeedName name) with
  | none => simp
  | some text => cases read : codeIdOfText text <;> simp [read]

/-- There is a seed for a resource unless its code id variable is ill given. -/
private theorem exists_environmentSeed_iff :
    (∃ given, environmentSeed environment name = .ok given) ↔ ¬ IllGiven environment name := by
  rw [← invalidCodeId_iff_illGiven, invalidCodeId_iff]
  cases environmentSeed environment name <;> simp

private theorem environmentCodeId_eq_some_iff :
    environmentCodeId environment name = .ok (some codeId) ↔
      ∃ text, HasValue environment (codeIdSeedName name) text ∧ StandsFor text codeId := by
  unfold environmentCodeId
  simp only [← get?_eq_some_iff, ← codeIdOfText_eq_ok_iff]
  cases environment.get? (codeIdSeedName name) with
  | none => simp
  | some text => cases read : codeIdOfText text <;> simp [read]

private theorem variableName_of_environmentCodeId
    {fault : SeedFault}
    (fails : environmentCodeId environment name = .error fault) :
    fault.variableName = codeIdSeedName name := by
  unfold environmentCodeId at fails
  split at fails
  · cases fails
  · split at fails
    · cases fails
    · cases fails
      rfl

/-! ## Fields -/

/-- What the variables of a resource make of its earlier seed. The two fields follow
different rules: an address that is blank does not count, and a code id counts as soon as its
variable has a value. -/
structure Overlaid (environment : Environment) (seeds later : Seeds) (name : String) : Prop where
  address : ∀ text, environment (addressSeedName name) = some text → Text.blank text = false →
    later.address? name = some text
  keptAddress :
    (∀ text, environment (addressSeedName name) = some text → Text.blank text = true) →
      later.address? name = seeds.address? name
  codeId : ∀ text, HasValue environment (codeIdSeedName name) text →
    ∃ codeId, StandsFor text codeId ∧ later.codeId? name = some codeId
  keptCodeId : (∀ text, ¬ HasValue environment (codeIdSeedName name) text) →
    later.codeId? name = seeds.codeId? name

private theorem givenSeed_normal_address
    (valid : ∃ given, environmentSeed environment name = .ok given) :
    (givenSeed environment name).normal.address =
      (environment (addressSeedName name)).filter fun text => !Text.blank text := by
  have emptyIsBlank : ∀ text : String, (!text.isEmpty && !Text.blank text) = !Text.blank text := by
    intro text
    by_cases empty : text = ""
    · subst empty
      decide
    · simp [empty]
  obtain ⟨given, gives⟩ := valid
  rw [givenSeed_of_ok gives]
  unfold environmentSeed at gives
  split at gives
  · cases gives
  · cases gives
    show ((environment (addressSeedName name)).filter _).filter _ = _
    rw [Option.filter_filter]
    simp only [emptyIsBlank]

/-- A resource that is asked for has what its variables make of its earlier seed. -/
private theorem overlaid_of_mem
    (overlaid : overlayEnvironment environment names seeds = .ok later)
    (member : name ∈ names) :
    Overlaid environment seeds later name := by
  have valid := exists_overlayEnvironment_iff.mp ⟨later, overlaid⟩ name member
  have taken := seed_overlayEnvironment overlaid name
  rw [if_pos member] at taken
  have address : later.address? name =
      ((environment (addressSeedName name)).filter (fun text => !Text.blank text) <|>
        seeds.address? name) := by
    rw [← givenSeed_normal_address valid]
    exact congrArg Seed.address taken
  have codeId : later.codeId? name =
      ((givenSeed environment name).codeId <|> seeds.codeId? name) :=
    congrArg Seed.codeId taken
  constructor
  · intro text isSet visible
    simp [address, isSet, visible]
  · intro allBlank
    have nothing : (environment (addressSeedName name)).filter
        (fun text => !Text.blank text) = none := by
      rw [Option.filter_eq_none_iff]
      simpa using allBlank
    rw [address, nothing]
    rfl
  · intro text hasValue
    have standsForOne : ∃ codeId, StandsFor text codeId := by
      by_contra standsForNone
      exact exists_environmentSeed_iff.mp valid ⟨text, hasValue, standsForNone⟩
    obtain ⟨number, standsFor⟩ := standsForOne
    have given : (givenSeed environment name).codeId = some number := by
      rw [codeId_givenSeed_iff, environmentCodeId_eq_some_iff]
      exact ⟨text, hasValue, standsFor⟩
    refine ⟨number, standsFor, ?_⟩
    rw [codeId, given]
    rfl
  · intro noValue
    have nothing : (givenSeed environment name).codeId = none := by
      rw [Option.eq_none_iff_forall_ne_some]
      intro number given
      rw [codeId_givenSeed_iff, environmentCodeId_eq_some_iff] at given
      obtain ⟨text, hasValue, _⟩ := given
      exact noValue text hasValue
    rw [codeId, nothing]
    rfl

/-- The seeds of the environment are laid over earlier ones unless a resource that is asked
for has a code id variable with a value that stands for none. Then the first such variable is
the fault. Otherwise each resource that is asked for takes over the fields that its variables
give and keeps the others, and every other resource keeps both. -/
theorem overlayEnvironment_by_variables
    (environment : Environment)
    (names : List String)
    (seeds : Seeds) :
    ((∃ name ∈ names, IllGiven environment name) →
      ∃ fault stopped name,
        overlayEnvironment environment names seeds = .error (fault, stopped) ∧
          IsFirst (IllGiven environment) names name ∧
          fault.variableName = codeIdSeedName name) ∧
      ((¬ ∃ name ∈ names, IllGiven environment name) →
        ∃ later, overlayEnvironment environment names seeds = .ok later ∧
          (∀ name ∈ names, Overlaid environment seeds later name) ∧
          ∀ name ∉ names,
            later.address? name = seeds.address? name ∧
              later.codeId? name = seeds.codeId? name) := by
  have possible : (∃ later, overlayEnvironment environment names seeds = .ok later) ↔
      ¬ ∃ name ∈ names, IllGiven environment name := by
    rw [exists_overlayEnvironment_iff]
    simp only [exists_environmentSeed_iff, not_exists, not_and]
  cases overlaid : overlayEnvironment environment names seeds with
  | error failure =>
      obtain ⟨fault, stopped⟩ := failure
      rw [overlaid] at possible
      constructor
      · intro _
        obtain ⟨name, first, fails⟩ := exists_isFirst_of_overlayEnvironment overlaid
        have illGiven : InvalidCodeId environment = IllGiven environment :=
          funext fun _ => propext invalidCodeId_iff_illGiven
        exact ⟨fault, stopped, name, rfl, illGiven ▸ first,
          variableName_of_environmentCodeId fails⟩
      · intro wellGiven
        obtain ⟨later, succeeds⟩ := possible.mpr wellGiven
        cases succeeds
  | ok later =>
      rw [overlaid] at possible
      constructor
      · intro illGiven
        exact absurd illGiven (possible.mp ⟨later, rfl⟩)
      · intro _
        refine ⟨later, rfl, fun name member => overlaid_of_mem overlaid member, ?_⟩
        intro name notAsked
        have kept := seed_overlayEnvironment overlaid name
        rw [if_neg notAsked] at kept
        exact ⟨congrArg Seed.address kept, congrArg Seed.codeId kept⟩

/-- An environment with a code id that a plus sign, leading zeros and blank characters
surround, a blank address, an empty code id, and a code id that is too large. -/
def mixedEnvironment : Environment :=
  .ofList
    [("POOL_CODE_ID", " +007\n"), ("POOL_ADDRESS", "\u00a0"), ("HUB_ADDRESS", "sei1hub"),
      ("HUB_CODE_ID", ""), ("GATE_CODE_ID", "18446744073709551616")]

theorem overlayEnvironment_by_variables_of_mixedEnvironment :
    let seeds := Seeds.empty.withAddress "pool" "sei1pool"
    (∃ name ∈ ["pool", "gate"], IllGiven mixedEnvironment name) ∧
      (∃ fault stopped name,
        overlayEnvironment mixedEnvironment ["pool", "gate"] seeds = .error (fault, stopped) ∧
          IsFirst (IllGiven mixedEnvironment) ["pool", "gate"] name ∧
          fault.variableName = codeIdSeedName name) ∧
      (¬ ∃ name ∈ ["pool", "hub"], IllGiven mixedEnvironment name) ∧
      ∃ later, overlayEnvironment mixedEnvironment ["pool", "hub"] seeds = .ok later ∧
        (∀ name ∈ ["pool", "hub"], Overlaid mixedEnvironment seeds later name) ∧
        ∀ name ∉ ["pool", "hub"],
          later.address? name = seeds.address? name ∧ later.codeId? name = seeds.codeId? name := by
  intro seeds
  have gate : IllGiven mixedEnvironment "gate" := by
    apply invalidCodeId_iff_illGiven.mp
    exact ⟨⟨"GATE_CODE_ID", .tooLarge⟩, by decide +kernel⟩
  have pool : ¬ IllGiven mixedEnvironment "pool" := by
    apply exists_environmentSeed_iff.mp
    exact ⟨⟨some "\u00a0", some 7⟩, by decide +kernel⟩
  have hub : ¬ IllGiven mixedEnvironment "hub" := by
    apply exists_environmentSeed_iff.mp
    exact ⟨⟨some "sei1hub", none⟩, by decide +kernel⟩
  have withGate : ∃ name ∈ ["pool", "gate"], IllGiven mixedEnvironment name :=
    ⟨"gate", by decide, gate⟩
  have withHub : ¬ ∃ name ∈ ["pool", "hub"], IllGiven mixedEnvironment name := by
    simp [pool, hub]
  exact ⟨withGate,
    (overlayEnvironment_by_variables mixedEnvironment ["pool", "gate"] seeds).1 withGate,
    withHub, (overlayEnvironment_by_variables mixedEnvironment ["pool", "hub"] seeds).2 withHub⟩

end Rollout.Cdp
