import Rollout.Proofs.Provision.Creation
import Rollout.Proofs.Seeds

/-!
Contract: runs over one graph, each with what the earlier runs left on record.

Owns:
- histories of runs, with the seeds of each;
- that seeds of later runs keep what is known of every resource with an address;
- that a later run takes over what an earlier one recorded, so that no resource is
  created twice and nothing is called once all are live.

Does not own: runs over other graphs. A blank address would not be kept.
-/

namespace Rollout

open Provision

/-! ## Seeds of later runs -/

namespace Seeds

variable {seeds later : Seeds} {registry : Registry} {entry : Entry}

/-- Later seeds say the same of every resource that has an address. -/
def Keeps (seeds later : Seeds) : Prop :=
  ∀ name address, seeds.address? name = some address →
    later.address? name = some address ∧ later.codeId? name = seeds.codeId? name

private theorem Keeps.refl (seeds : Seeds) : seeds.Keeps seeds :=
  fun _ _ known => ⟨known, rfl⟩

private theorem Keeps.trans
    {last : Seeds}
    (first : seeds.Keeps later)
    (second : later.Keeps last) :
    seeds.Keeps last := by
  intro name address known
  obtain ⟨laterKnown, laterCode⟩ := first name address known
  obtain ⟨lastKnown, lastCode⟩ := second name address laterKnown
  exact ⟨lastKnown, lastCode.trans laterCode⟩

/-- The seeds say of a resource what its entry says. -/
structure Tells (seeds : Seeds) (entry : Entry) : Prop where
  address : seeds.address? entry.name = some entry.address
  codeId : seeds.codeId? entry.name = entry.codeId

private theorem Keeps.tells
    (keeps : seeds.Keeps later)
    (tells : seeds.Tells entry) :
    later.Tells entry := by
  obtain ⟨address, codeId⟩ := keeps entry.name entry.address tells.address
  exact ⟨address, codeId.trans tells.codeId⟩

/-- The entry of a resource with a seeded address says what the seeds say. -/
theorem tells_of_sourced
    {address : String}
    (sourced : Sourced seeds entry)
    (known : seeds.address? entry.name = some address) :
    seeds.Tells entry ∧ entry.created = false := by
  cases sourced with
  | seeded otherKnown => exact ⟨⟨otherKnown, rfl⟩, rfl⟩
  | created unseeded =>
      have contrary := known.symm.trans unseeded
      cases contrary

private theorem address?_after
    (distinct : registry.names.Nodup)
    (name : String) :
    (seeds.after registry).address? name =
      ((registry.address? name).filter (fun address => !Text.blank address) <|>
        seeds.address? name) :=
  congrArg Seed.address (seed_after distinct)

private theorem codeId?_after
    (distinct : registry.names.Nodup)
    (name : String) :
    (seeds.after registry).codeId? name =
      (registry.codeId? name <|> seeds.codeId? name) :=
  congrArg Seed.codeId (seed_after distinct)

/-- A run changes nothing about the resources that were seeded with an address. -/
theorem keeps_after
    (distinct : registry.names.Nodup)
    (sourced : ∀ entry ∈ registry.entries, Sourced seeds entry) :
    seeds.Keeps (seeds.after registry) := by
  intro name address known
  rw [address?_after distinct, codeId?_after distinct, known]
  unfold Registry.address? Registry.codeId?
  cases found : registry.find? name with
  | none => exact ⟨rfl, rfl⟩
  | some entry =>
      obtain ⟨member, rfl⟩ := Registry.mem_of_find? found
      obtain ⟨tells, _⟩ := tells_of_sourced (sourced entry member) known
      have same : entry.address = address :=
        Option.some.inj (tells.address.symm.trans known)
      -- A blank address on record is passed over, but then it is the seeded one.
      constructor
      · rw [Option.map_some, same, Option.filter_some]
        split <;> rfl
      · simp [tells.codeId]

/-- After a run, the seeds tell what it recorded. -/
theorem after_tells
    (distinct : registry.names.Nodup)
    (sourced : ∀ entry ∈ registry.entries, Sourced seeds entry)
    (visible : ∀ entry ∈ registry.created, Text.blank entry.address = false)
    (member : entry ∈ registry.entries) :
    (seeds.after registry).Tells entry := by
  have found := Registry.find?_of_mem distinct member
  cases sourced entry member with
  | @seeded name address known =>
      obtain ⟨laterAddress, laterCode⟩ := keeps_after distinct sourced name address known
      exact ⟨laterAddress, laterCode⟩
  | @created name address codeId unseeded =>
      have notBlank : Text.blank address = false :=
        visible _ (List.mem_filter.mpr ⟨member, rfl⟩)
      constructor
      · rw [address?_after distinct, Registry.address?, found]
        simp [Entry.ofCreation, notBlank]
      · rw [codeId?_after distinct, Registry.codeId?, found]
        rfl

end Seeds

namespace Provision

variable {graph : Graph} {seeds : Seeds} {bindings : Variables}

/-! ## Histories -/

/-- A run to come: its variables, and a backend with what it remembers. -/
structure Attempt where
  bindings : Variables
  Memory : Type
  backend : Backend Memory
  memory : Memory

/-- What a run came to, and its calls with their answers. -/
structure Outcome where
  value : Except Aborted Registry
  rounds : List CallRound

def Outcome.registry (outcome : Outcome) : Registry :=
  recorded outcome.value

def Attempt.outcome
    (attempt : Attempt)
    (graph : Graph)
    (seeds : Seeds) :
    Outcome :=
  let exchange := provision graph seeds attempt.bindings
  ⟨(exchange.play attempt.backend attempt.memory).value,
    exchange.rounds attempt.backend attempt.memory⟩

/-- The outcomes of runs one after the other. What a run left on record, finished or
not, is put over the seeds of the next one. -/
def history (graph : Graph) : Seeds → List Attempt → List Outcome
  | _, [] => []
  | seeds, attempt :: rest =>
      let outcome := attempt.outcome graph seeds
      outcome :: history graph (seeds.after outcome.registry) rest

/-- A later run goes on where an earlier one ended: it takes over what is on record,
and it calls nothing if the earlier one had finished. -/
structure Continues (earlier later : Outcome) : Prop where
  names : earlier.registry.names <+: later.registry.names
  entries : ∀ entry ∈ earlier.registry.entries,
    later.registry.find? entry.name = some { entry with created := false }
  idle : (∃ registry, earlier.value = .ok registry) → later.rounds = []

/-- An outcome that a run over a graph can have with some variables and backend. -/
def Outcome.Follows
    (outcome : Outcome)
    (graph : Graph)
    (seeds : Seeds) :
    Prop :=
  ∃ bindings,
    Ends seeds bindings graph.resources Registry.empty outcome.rounds outcome.value

variable {outcome earlier later : Outcome}

theorem Attempt.follows
    (attempt : Attempt)
    (graph : Graph)
    (seeds : Seeds) :
    (attempt.outcome graph seeds).Follows graph seeds :=
  ⟨attempt.bindings,
    ends_provision graph seeds attempt.bindings attempt.backend attempt.memory⟩

namespace Outcome.Follows

theorem names_nodup
    (follows : outcome.Follows graph seeds)
    (valid : Graph.Valid graph) :
    outcome.registry.names.Nodup := by
  obtain ⟨_, ends⟩ := follows
  exact ends.names_nodup valid.distinct

theorem sourced (follows : outcome.Follows graph seeds) :
    ∀ entry ∈ outcome.registry.entries, Sourced seeds entry := by
  obtain ⟨_, ends⟩ := follows
  exact ends.sourced

theorem names_prefix (follows : outcome.Follows graph seeds) :
    outcome.registry.names <+: graph.names := by
  obtain ⟨_, ends⟩ := follows
  exact ends.names_prefix

/-- A created resource had no seeded address. -/
theorem unseeded_of_created
    {entry : Entry}
    (follows : outcome.Follows graph seeds)
    (member : entry ∈ outcome.registry.created) :
    seeds.address? entry.name = none := by
  obtain ⟨recorded, created⟩ := List.mem_filter.mp member
  cases follows.sourced entry recorded with
  | seeded known => cases created
  | created unseeded => exact unseeded

/-- If the calls of a run made no contract with a blank address, then none is on
record for a created resource. -/
theorem visible
    (follows : outcome.Follows graph seeds)
    (noBlank : ∀ contract ∈ contractsOf outcome.rounds, Text.blank contract.address = false) :
    ∀ entry ∈ outcome.registry.created, Text.blank entry.address = false := by
  obtain ⟨_, ends⟩ := follows
  intro entry member
  obtain ⟨contract, made, madeFor⟩ := exists_madeFor ends.madeFor member
  rw [madeFor.address]
  exact noBlank contract made

/-- A resource that seeds tell of is recorded as they tell. -/
theorem find?_of_tells
    {entry : Entry}
    (follows : outcome.Follows graph seeds)
    (valid : Graph.Valid graph)
    (tells : seeds.Tells entry)
    (recorded : entry.name ∈ outcome.registry.names) :
    outcome.registry.find? entry.name = some { entry with created := false } := by
  obtain ⟨found, member, sameName⟩ := List.mem_map.mp recorded
  have known : seeds.address? found.name = some entry.address := by
    rw [sameName]
    exact tells.address
  obtain ⟨foundTells, notCreated⟩ := Seeds.tells_of_sourced (follows.sourced found member) known
  have sameAddress : found.address = entry.address :=
    Option.some.inj (foundTells.address.symm.trans known)
  have sameCode : found.codeId = entry.codeId := by
    rw [← foundTells.codeId, ← tells.codeId, sameName]
  have same : found = { entry with created := false } := by
    cases found
    simp_all
  rw [← same, ← sameName]
  exact Registry.find?_of_mem (follows.names_nodup valid) member

end Outcome.Follows

/-! ## Seeded resources -/

private theorem Walked.rounds_eq_nil
    {resources : List Descriptor}
    {registry final : Registry}
    {rounds : List CallRound}
    (walked : Walked seeds bindings resources registry rounds final)
    (seeded : ∀ descriptor ∈ resources, seeds.address? descriptor.name ≠ none) :
    rounds = [] := by
  induction walked with
  | done registry => rfl
  | @next descriptor rest registry final entry first later live others inductionHypothesis =>
      have laterNone : later = [] := inductionHypothesis
        fun other member => seeded other (List.mem_cons_of_mem descriptor member)
      cases live with
      | seeded known => simpa using laterNone
      | created unseeded _ _ => exact absurd unseeded (seeded descriptor (by simp))

/-- A list that begins another one, and does not reach a certain item of it, begins the
part before that item. -/
private theorem prefix_of_notMem
    {α : Type}
    {names before after : List α}
    {item : α}
    (first : names <+: before ++ item :: after)
    (notReached : item ∉ names) :
    names <+: before := by
  rcases List.prefix_or_prefix_of_prefix first (List.prefix_append before _) with
    shorter | longer
  · exact shorter
  · obtain ⟨more, rfl⟩ := longer
    have begins : more <+: item :: after := (List.prefix_append_right_inj before).mp first
    cases more with
    | nil => simp
    | cons head rest =>
        obtain ⟨rfl, _⟩ := List.cons_prefix_cons.mp begins
        simp at notReached

namespace Outcome.Follows

/-- A run gets past the first resources if they have a seeded address. -/
theorem prefix_of_seeded
    {names : List String}
    (follows : outcome.Follows graph seeds)
    (first : names <+: graph.names)
    (seeded : ∀ name ∈ names, seeds.address? name ≠ none) :
    names <+: outcome.registry.names := by
  obtain ⟨bindings, ends⟩ := follows
  cases value : outcome.value with
  | ok final =>
      have all := ends.ok_iff_names_eq.mp ⟨final, value⟩
      exact all ▸ first
  | error aborted =>
      rw [value] at ends
      obtain ⟨before, stuck, after, stopped⟩ := ends
      have reached : outcome.registry.names = Graph.namesOf before := by
        rw [Outcome.registry, value]
        exact stopped.names_eq
      have split : graph.names =
          Graph.namesOf before ++ stuck.name :: Graph.namesOf after := by
        rw [Graph.names, stopped.split, List.map_append, List.map_cons]
      rw [reached]
      -- The run stopped at a resource without a seeded address, beyond these names.
      exact prefix_of_notMem (split ▸ first) fun member => seeded _ member stopped.unseeded

/-- A run makes no calls if all resources of the graph have a seeded address. -/
theorem rounds_eq_nil
    (follows : outcome.Follows graph seeds)
    (seeded : ∀ name ∈ graph.names, seeds.address? name ≠ none) :
    outcome.rounds = [] := by
  obtain ⟨bindings, ends⟩ := follows
  have seededResources : ∀ descriptor ∈ graph.resources,
      seeds.address? descriptor.name ≠ none :=
    fun descriptor member => seeded descriptor.name (List.mem_map_of_mem member)
  cases value : outcome.value with
  | ok final =>
      rw [value] at ends
      exact Walked.rounds_eq_nil ends seededResources
  | error aborted =>
      rw [value] at ends
      obtain ⟨before, stuck, after, stopped⟩ := ends
      have member : stuck ∈ graph.resources := by
        rw [stopped.split]
        simp
      exact absurd stopped.unseeded (seededResources stuck member)

/-- A run goes on where an earlier one ended if its seeds tell what that one recorded. -/
theorem continues
    {laterSeeds : Seeds}
    (valid : Graph.Valid graph)
    (earlierFollows : earlier.Follows graph seeds)
    (laterFollows : later.Follows graph laterSeeds)
    (tells : ∀ entry ∈ earlier.registry.entries, laterSeeds.Tells entry) :
    Continues earlier later := by
  have seeded : ∀ name ∈ earlier.registry.names, laterSeeds.address? name ≠ none := by
    intro name member
    obtain ⟨entry, inEntries, rfl⟩ := List.mem_map.mp member
    simp [(tells entry inEntries).address]
  have names := laterFollows.prefix_of_seeded earlierFollows.names_prefix seeded
  refine ⟨names, ?_, ?_⟩
  · intro entry member
    exact laterFollows.find?_of_tells valid (tells entry member)
      (names.subset (List.mem_map_of_mem member))
  · intro finished
    obtain ⟨_, ends⟩ := earlierFollows
    have all : earlier.registry.names = graph.names := ends.ok_iff_names_eq.mp finished
    exact laterFollows.rounds_eq_nil (all ▸ seeded)

end Outcome.Follows

/-! ## Runs in a history -/

/-- Every run of a history has seeds that keep what was known at its start. -/
theorem exists_seeds_of_mem_history
    {attempts : List Attempt}
    (valid : Graph.Valid graph)
    (member : outcome ∈ history graph seeds attempts) :
    ∃ later, seeds.Keeps later ∧ outcome.Follows graph later := by
  induction attempts generalizing seeds with
  | nil => cases member
  | cons attempt rest inductionHypothesis =>
      have follows := attempt.follows graph seeds
      rcases List.mem_cons.mp member with rfl | inRest
      · exact ⟨seeds, .refl seeds, follows⟩
      · obtain ⟨later, keeps, laterFollows⟩ := inductionHypothesis inRest
        have keepsFirst := Seeds.keeps_after (follows.names_nodup valid) follows.sourced
        exact ⟨later, keepsFirst.trans keeps, laterFollows⟩

/-- No run of a history makes a contract with a blank address. -/
def NoBlankAddress (outcomes : List Outcome) : Prop :=
  ∀ outcome ∈ outcomes, ∀ contract ∈ contractsOf outcome.rounds,
    Text.blank contract.address = false

/-- The seeds of all runs after the first one tell what the first one recorded. -/
theorem tells_of_mem_history
    {attempts : List Attempt}
    {attempt : Attempt}
    (valid : Graph.Valid graph)
    (noBlank : NoBlankAddress (history graph seeds (attempt :: attempts)))
    (member : later ∈ history graph (seeds.after (attempt.outcome graph seeds).registry)
      attempts) :
    ∃ laterSeeds, later.Follows graph laterSeeds ∧
      ∀ entry ∈ (attempt.outcome graph seeds).registry.entries, laterSeeds.Tells entry := by
  have follows := attempt.follows graph seeds
  obtain ⟨laterSeeds, keeps, laterFollows⟩ := exists_seeds_of_mem_history valid member
  refine ⟨laterSeeds, laterFollows, fun entry recorded => keeps.tells ?_⟩
  exact Seeds.after_tells (follows.names_nodup valid) follows.sourced
    (follows.visible (noBlank _ (by simp [history]))) recorded

private theorem NoBlankAddress.tail
    {attempts : List Attempt}
    {attempt : Attempt}
    (noBlank : NoBlankAddress (history graph seeds (attempt :: attempts))) :
    NoBlankAddress
      (history graph (seeds.after (attempt.outcome graph seeds).registry) attempts) :=
  fun outcome member => noBlank outcome (List.mem_cons_of_mem _ member)

private theorem history_continues
    {attempts : List Attempt}
    (valid : Graph.Valid graph)
    (noBlank : NoBlankAddress (history graph seeds attempts)) :
    (history graph seeds attempts).Pairwise Continues := by
  induction attempts generalizing seeds with
  | nil => exact .nil
  | cons attempt rest inductionHypothesis =>
      refine List.pairwise_cons.mpr ⟨?_, inductionHypothesis noBlank.tail⟩
      intro later member
      obtain ⟨laterSeeds, laterFollows, tells⟩ := tells_of_mem_history valid noBlank member
      exact (attempt.follows graph seeds).continues valid laterFollows tells

def Outcome.createdNames (outcome : Outcome) : List String :=
  outcome.registry.created.map Entry.name

private theorem history_createdNames_nodup
    {attempts : List Attempt}
    (valid : Graph.Valid graph)
    (noBlank : NoBlankAddress (history graph seeds attempts)) :
    ((history graph seeds attempts).flatMap Outcome.createdNames).Nodup := by
  induction attempts generalizing seeds with
  | nil => exact .nil
  | cons attempt rest inductionHypothesis =>
      have follows := attempt.follows graph seeds
      have ofFirst : (attempt.outcome graph seeds).createdNames.Nodup :=
        (follows.names_nodup valid).sublist (List.filter_sublist.map Entry.name)
      refine List.nodup_append'.mpr ⟨ofFirst, inductionHypothesis noBlank.tail, ?_⟩
      -- What the first run created is seeded from then on, so no later run creates it.
      intro name createdFirst createdLater
      obtain ⟨entry, inFirst, rfl⟩ := List.mem_map.mp createdFirst
      obtain ⟨later, inRest, createdThere⟩ := List.mem_flatMap.mp createdLater
      obtain ⟨again, inLater, sameName⟩ := List.mem_map.mp createdThere
      obtain ⟨laterSeeds, laterFollows, tells⟩ := tells_of_mem_history valid noBlank inRest
      have known := (tells entry (List.mem_filter.mp inFirst).1).address
      have unseeded := laterFollows.unseeded_of_created inLater
      rw [sameName, known] at unseeded
      cases unseeded

/-! ## Exactly once -/

/-- Over runs that go on from what the earlier ones recorded, and that make no contract
with a blank address: the contracts of a run are those of the resources that it creates;
no resource is created twice, and none that was seeded with an address; every run takes
over what the earlier ones recorded; and after one that finished no run calls
anything. -/
theorem history_creates_once
    {descriptors : List Descriptor}
    {graph : Graph}
    (built : Graph.build descriptors = .ok graph)
    (seeds : Seeds)
    (attempts : List Attempt)
    (noBlank : NoBlankAddress (history graph seeds attempts)) :
    (∀ outcome ∈ history graph seeds attempts,
        List.Forall₂ (MadeFor graph.resources) (contractsOf outcome.rounds)
          outcome.registry.created) ∧
      ((history graph seeds attempts).flatMap Outcome.createdNames).Nodup ∧
      (∀ outcome ∈ history graph seeds attempts, ∀ name ∈ outcome.createdNames,
        seeds.address? name = none) ∧
      (history graph seeds attempts).Pairwise Continues := by
  have valid := Graph.valid_of_build built
  refine ⟨?_, history_createdNames_nodup valid noBlank, ?_, history_continues valid noBlank⟩
  · intro outcome member
    obtain ⟨_, _, _, ends⟩ := exists_seeds_of_mem_history valid member
    exact ends.madeFor
  · intro outcome member name created
    obtain ⟨entry, inCreated, rfl⟩ := List.mem_map.mp created
    obtain ⟨later, keeps, follows⟩ := exists_seeds_of_mem_history valid member
    have unseeded := follows.unseeded_of_created inCreated
    cases known : seeds.address? entry.name with
    | none => rfl
    | some address =>
        rw [(keeps entry.name address known).1] at unseeded
        cases unseeded

def obliging : Backend Unit :=
  Backend.ofAnswers fun
    | .registerArtifact _ => .ok 8
    | .instantiate _ _ _ label => .ok ("sei1" ++ label)
    | _ => .error .unreadable

/-- A run that stops half way, one that finishes what it left, and one more. -/
def threeAttempts : List Attempt :=
  [⟨[("owner", "sei1owner")], Unit, vaultsOnly, ()⟩, ⟨[], Unit, obliging, ()⟩,
    ⟨[], Unit, obliging, ()⟩]

theorem history_creates_once_of_threeAttempts :
    let outcomes := history ⟨[vault, twin]⟩ Seeds.empty threeAttempts
    outcomes.map Outcome.createdNames = [["vault"], ["twin"], []] ∧
      NoBlankAddress outcomes ∧
      (∀ outcome ∈ outcomes,
        List.Forall₂ (MadeFor [vault, twin]) (contractsOf outcome.rounds)
          outcome.registry.created) ∧
      (outcomes.flatMap Outcome.createdNames).Nodup ∧
      (∀ outcome ∈ outcomes, ∀ name ∈ outcome.createdNames,
        Seeds.empty.address? name = none) ∧
      outcomes.Pairwise Continues := by
  have built : Graph.build [twin, vault] = .ok ⟨[vault, twin]⟩ := rfl
  have noBlank : NoBlankAddress (history ⟨[vault, twin]⟩ Seeds.empty threeAttempts) := by
    unfold NoBlankAddress
    decide +kernel
  exact ⟨rfl, noBlank, history_creates_once built Seeds.empty threeAttempts noBlank⟩

end Provision

end Rollout
