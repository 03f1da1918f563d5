import Rollout.Proofs.Provision.Creation
import Rollout.Proofs.Seeds

/-!
Contract: addresses on record that are blank.

Owns:
- that such an address was the answer to an instantiation, and never a seed;
- that the seeds of a later run pass over it, so that the resource counts as missing.

Does not own: what a later run does about it.
-/

namespace Rollout

def Registry.Visible (registry : Registry) : Prop :=
  ∀ entry ∈ registry.entries, Text.blank entry.address = false

namespace Provision

variable {seeds : Seeds} {bindings : Variables} {resources : List Descriptor}
  {registry : Registry} {rounds : List CallRound} {entry : Entry}
  {outcome : Except Aborted Registry}

/-- An entry from a seed never has a blank address. -/
private theorem Sourced.created_of_blank
    (sourced : Sourced seeds entry)
    (normal : seeds.Normal)
    (blank : Text.blank entry.address = true) :
    entry.created = true := by
  cases sourced with
  | @seeded name address known =>
      have visible : Text.blank address = false := Seed.visible_of_normal (normal name) known
      exact absurd (visible.symm.trans blank) Bool.false_ne_true
  | created unseeded => rfl

/-- A blank address on record is that of a contract that a backend made. -/
theorem Ends.exists_contract_of_blank
    {graph : Graph}
    (ends : Ends seeds bindings graph.resources Registry.empty rounds outcome)
    (normal : seeds.Normal)
    (member : entry ∈ (recorded outcome).entries)
    (blank : Text.blank entry.address = true) :
    entry.created = true ∧
      ∃ contract ∈ contractsOf rounds, MadeFor graph.resources contract entry := by
  have created := (ends.sourced entry member).created_of_blank normal blank
  exact ⟨created, exists_madeFor ends.madeFor (List.mem_filter.mpr ⟨member, created⟩)⟩

/-- The addresses on record are visible exactly if those of the new contracts are. -/
theorem Ends.visible_iff
    {graph : Graph}
    (ends : Ends seeds bindings graph.resources Registry.empty rounds outcome)
    (normal : seeds.Normal) :
    (recorded outcome).Visible ↔
      ∀ contract ∈ contractsOf rounds, Text.blank contract.address = false := by
  constructor
  · intro visible contract made
    obtain ⟨entry, created, madeFor⟩ := exists_entry_of_madeFor ends.madeFor made
    rw [← madeFor.address]
    exact visible entry (List.mem_filter.mp created).1
  · intro noBlank entry member
    by_contra notVisible
    have blank : Text.blank entry.address = true := by simpa using notVisible
    obtain ⟨_, contract, made, madeFor⟩ := ends.exists_contract_of_blank normal member blank
    rw [madeFor.address, noBlank contract made] at blank
    cases blank

/-- As a seed of a later run, an entry keeps its address unless that is blank. -/
theorem address?_ofRegistry
    (distinct : registry.names.Nodup)
    (member : entry ∈ registry.entries) :
    (Seeds.ofRegistry registry).address? entry.name =
      if Text.blank entry.address then none else some entry.address := by
  rw [Seeds.address?, Seeds.seed_ofRegistry distinct, Registry.address?,
    Registry.find?_of_mem distinct member, Option.map_some, Seed.address_normal]

/-- Every name on record has a seeded address in a later run exactly if no address on
record is blank. -/
theorem seeded_iff_visible (distinct : registry.names.Nodup) :
    (∀ name ∈ registry.names, (Seeds.ofRegistry registry).address? name ≠ none) ↔
      registry.Visible := by
  unfold Registry.Visible Registry.names
  rw [List.forall_mem_map]
  refine forall₂_congr fun entry member => ?_
  rw [address?_ofRegistry distinct member]
  cases Text.blank entry.address <;> simp

/-- Whatever is seeded and however the backend answers, a blank address on record is one
that the backend gave a new contract. So no address on record is blank, and every name
on record has a seeded address in a later run, exactly if the backend gave no blank
address. -/
theorem blank_address_of_answer
    {σ : Type}
    {descriptors : List Descriptor}
    {graph : Graph}
    (built : Graph.build descriptors = .ok graph)
    (normal : seeds.Normal)
    (bindings : Variables)
    (backend : Backend σ)
    (state : σ) :
    let exchange := provision graph seeds bindings
    let registry := recorded (exchange.play backend state).value
    let contracts := contractsOf (exchange.rounds backend state)
    (∀ entry ∈ registry.entries, Text.blank entry.address = true →
        entry.created = true ∧
          ∃ contract ∈ contracts, MadeFor graph.resources contract entry) ∧
      (registry.Visible ↔
        ∀ contract ∈ contracts, Text.blank contract.address = false) ∧
      ((∀ name ∈ registry.names, (Seeds.ofRegistry registry).address? name ≠ none) ↔
        ∀ contract ∈ contracts, Text.blank contract.address = false) := by
  intro exchange registry contracts
  have ends := ends_provision graph seeds bindings backend state
  have distinct : registry.names.Nodup := ends.names_nodup (Graph.valid_of_build built).distinct
  have visible := ends.visible_iff normal
  exact ⟨fun _ => ends.exists_contract_of_blank normal, visible,
    (seeded_iff_visible distinct).trans visible⟩

def blankVaults : Backend Unit :=
  Backend.ofAnswers fun
    | .registerArtifact _ => .ok 7
    | .instantiate _ _ _ "Vault" => .ok " "
    | .instantiate _ _ _ _ => .ok "sei1other"
    | _ => .error .unreadable

theorem blank_address_of_answer_of_vault :
    let seeds := Seeds.ofRegistry ⟨[.ofReuse "twin" "sei1twin" none]⟩
    let exchange := provision ⟨[vault, twin]⟩ seeds [("owner", "sei1owner")]
    let registry := recorded (exchange.play blankVaults ()).value
    let contracts := contractsOf (exchange.rounds blankVaults ())
    Graph.build [twin, vault] = .ok ⟨[vault, twin]⟩ ∧ seeds.Normal ∧
      (∀ entry ∈ registry.entries, Text.blank entry.address = true →
        entry.created = true ∧
          ∃ contract ∈ contracts, MadeFor [vault, twin] contract entry) ∧
      (registry.Visible ↔
        ∀ contract ∈ contracts, Text.blank contract.address = false) ∧
      ((∀ name ∈ registry.names, (Seeds.ofRegistry registry).address? name ≠ none) ↔
        ∀ contract ∈ contracts, Text.blank contract.address = false) := by
  intro seeds exchange registry contracts
  have built : Graph.build [twin, vault] = .ok ⟨[vault, twin]⟩ := rfl
  have normal : seeds.Normal := Seeds.normal_empty.overlayAll _
  exact ⟨built, normal,
    blank_address_of_answer built normal [("owner", "sei1owner")] blankVaults ()⟩

/-- A complete provisioning can leave a blank address on record. The resource then has no
seeded address, and the next provisioning makes it once more. -/
theorem blank_address_recorded :
    let exchange := provision ⟨[vault, twin]⟩ Seeds.empty [("owner", "sei1owner")]
    Graph.build [twin, vault] = .ok ⟨[vault, twin]⟩ ∧
      ∃ registry, (exchange.play blankVaults ()).value = .ok registry ∧
        ¬ registry.Visible ∧
        (Seeds.ofRegistry registry).address? "vault" = none ∧
        contractsOf ((provision ⟨[vault, twin]⟩ (Seeds.ofRegistry registry)
          [("owner", "sei1owner")]).rounds blankVaults ()) = [⟨"Vault", 7, " "⟩] := by
  refine ⟨rfl, _, rfl, fun visible => ?_, by decide +kernel, by decide +kernel⟩
  exact absurd (visible (.ofCreation "vault" 7 " ") List.mem_cons_self) (by decide)

end Provision

end Rollout
