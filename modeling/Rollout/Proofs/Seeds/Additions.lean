import Mathlib.Data.List.Induction
import Rollout.Proofs.Seeds

/-!
Contract: seeds as they are after any additions to none.

Owns:
- additions: an address, an address with a code id, or any seed;
- that each field of a resource is the one that was given to it last, where a blank address
  counts as none given;
- that no blank address is held, and when seeds are empty.

Does not own: where additions come from.
-/

namespace Rollout

/-- What is added to seeds at one time. -/
inductive Addition where
  | withAddress (name address : String)
  | withCode (name address : String) (codeId : CodeId)
  /-- Any seed, also one with a blank address or without fields. -/
  | overlay (name : String) (seed : Seed)
  deriving DecidableEq, Repr

namespace Addition

def name : Addition → String
  | .withAddress name _ | .withCode name _ _ | .overlay name _ => name

def given : Addition → Seed
  | .withAddress _ address => ⟨some address, none⟩
  | .withCode _ address codeId => ⟨some address, some codeId⟩
  | .overlay _ seed => seed

def addTo (seeds : Seeds) : Addition → Seeds
  | .withAddress name address => seeds.withAddress name address
  | .withCode name address codeId => seeds.withCode name address codeId
  | .overlay name seed => seeds.overlay name seed

private theorem addTo_eq (seeds : Seeds) (addition : Addition) :
    addition.addTo seeds = seeds.overlay addition.name addition.given := by
  cases addition <;> rfl

def about (name : String) (additions : List Addition) : List Addition :=
  additions.filter fun addition => addition.name = name

end Addition

namespace Seeds

variable {seeds : Seeds} {name : String} {additions : List Addition}

def ofAdditions (additions : List Addition) : Seeds :=
  additions.foldl (fun seeds addition => addition.addTo seeds) empty

/-- The addresses that are given to a resource, in order. A blank one is none. -/
def addressesGiven (name : String) (additions : List Addition) : List String :=
  (Addition.about name additions).filterMap fun addition =>
    addition.given.address.filter fun address => !Text.blank address

def codeIdsGiven (name : String) (additions : List Addition) : List CodeId :=
  (Addition.about name additions).filterMap fun addition => addition.given.codeId

/-! ## One addition after others -/

private theorem ofAdditions_concat (additions : List Addition) (last : Addition) :
    ofAdditions (additions ++ [last]) =
      (ofAdditions additions).overlay last.name last.given := by
  rw [ofAdditions, List.foldl_append, ← Addition.addTo_eq]
  rfl

/-- A field is the last one given, if a seed over another has its own field or else that of
the other. -/
private theorem field_ofAdditions
    {α : Type}
    (field : Seed → Option α)
    (unknown : field Seed.unknown = none)
    (laidOver : ∀ upper lower, field (upper.laidOver lower) = (field upper <|> field lower))
    (additions : List Addition) :
    field ((ofAdditions additions).seed name) =
      ((Addition.about name additions).filterMap fun addition =>
        field addition.given.normal).getLast? := by
  induction additions using List.reverseRecOn with
  | nil => exact unknown
  | append_singleton earlier last inductionHypothesis =>
      rw [ofAdditions_concat, seed_overlay, Addition.about, List.filter_append,
        List.filterMap_append, List.getLast?_append]
      by_cases same : name = last.name
      · subst same
        rw [if_pos rfl, laidOver, inductionHypothesis]
        cases given : field last.given.normal <;> simp [given, Addition.about]
      · rw [if_neg same, inductionHypothesis]
        simp [Ne.symm same, Addition.about]

/-! ## What is held -/

private theorem ofAdditions_names_nodup (additions : List Addition) :
    (ofAdditions additions).names.Nodup := by
  induction additions using List.reverseRecOn with
  | nil => exact List.nodup_nil
  | append_singleton earlier last inductionHypothesis =>
      rw [ofAdditions_concat]
      exact overlay_names_nodup inductionHypothesis last.given

private theorem normal_ofAdditions (additions : List Addition) :
    (ofAdditions additions).Normal := by
  induction additions using List.reverseRecOn with
  | nil => exact normal_empty
  | append_singleton earlier last inductionHypothesis =>
      rw [ofAdditions_concat]
      exact inductionHypothesis.overlay last.name last.given

/-- If no name stands twice, every seed that is held is found by its name. -/
private theorem seed_of_mem
    {entry : String × Seed}
    (distinct : seeds.names.Nodup)
    (member : entry ∈ seeds.entries) :
    seeds.seed entry.1 = entry.2 := by
  rw [seed, lookup_of_mem distinct member, Option.getD_some]

/-- Seeds are empty if no resource has an address, whatever code ids there are. -/
theorem isEmpty_iff (distinct : seeds.names.Nodup) :
    seeds.isEmpty = true ↔ ∀ name, seeds.address? name = none := by
  rw [isEmpty, List.all_eq_true]
  constructor
  · intro noneHeld name
    rw [address?, seed]
    cases found : seeds.entries.lookup name with
    | none => rfl
    | some held =>
        exact Option.isNone_iff_eq_none.mp (noneHeld _ (mem_of_lookup found))
  · intro noneKnown entry member
    have nothing := noneKnown entry.1
    rw [address?, seed_of_mem distinct member] at nothing
    rw [nothing]
    rfl

/-- Seeds hold of each field of a resource what was given last. Of the addresses that were
given to a resource the last one counts, where a blank address is none given, and of the
code ids the last one, whatever was given to the other field or to other resources. No
blank address is held, and the seeds are empty exactly if no resource has an address. -/
theorem ofAdditions_holds_last (additions : List Addition) :
    (∀ name,
        (ofAdditions additions).address? name = (addressesGiven name additions).getLast? ∧
          (ofAdditions additions).codeId? name = (codeIdsGiven name additions).getLast?) ∧
      (∀ entry ∈ (ofAdditions additions).entries, ∀ address, entry.2.address = some address →
        Text.blank address = false) ∧
      ((ofAdditions additions).isEmpty = true ↔
        ∀ name, (ofAdditions additions).address? name = none) := by
  refine ⟨fun name => ⟨?_, ?_⟩, ?_, isEmpty_iff (ofAdditions_names_nodup additions)⟩
  · exact field_ofAdditions Seed.address rfl (fun _ _ => rfl) additions
  · exact field_ofAdditions Seed.codeId rfl (fun _ _ => rfl) additions
  · intro entry member address known
    have isNormal := normal_ofAdditions additions entry.1
    rw [seed_of_mem (ofAdditions_names_nodup additions) member] at isNormal
    exact Seed.visible_of_normal isNormal known

/-- A blank address and a missing field leave what was given before, and a code id alone
leaves the seeds empty. -/
example :
    let additions : List Addition :=
      [.overlay "pool" ⟨some " ", some 3⟩, .withCode "hub" "sei1hub" 4,
        .overlay "hub" ⟨some "\u00a0", none⟩, .overlay "hub" ⟨none, some 5⟩]
    (ofAdditions (additions.take 1)).isEmpty = true ∧
      (ofAdditions additions).address? "hub" = some "sei1hub" ∧
      (ofAdditions additions).codeId? "hub" = some 5 ∧
      (ofAdditions additions).codeId? "pool" = some 3 := by
  decide +kernel

end Seeds

end Rollout
