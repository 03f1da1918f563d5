import Mathlib.Data.Finset.Basic
import Rollout.Proofs.Provision.Restart
import Rollout.Proofs.Provision.Settlement

/-!
Contract: a provisioning in which some resources are reused that another one created.

Owns:
- the part of a registry for chosen names, and what the registry of the later run looks
  like;
- that the chosen resources are seeded with what is on record of them, and all others as
  before;
- that with these seeds every resource settles as before, and only the chosen ones make
  no calls.

Does not own: backends that remember earlier calls, and those that give blank addresses.
-/

namespace Rollout

/-! ## Chosen entries -/

def Entry.reusedIn (entry : Entry) (chosen : Finset String) : Entry :=
  { entry with created := if entry.name ∈ chosen then false else entry.created }

private theorem Entry.reusedIn_of_mem
    {entry : Entry}
    {chosen : Finset String}
    (isChosen : entry.name ∈ chosen) :
    entry.reusedIn chosen = { entry with created := false } := by
  rw [Entry.reusedIn, if_pos isChosen]

private theorem Entry.reusedIn_of_notMem
    {entry : Entry}
    {chosen : Finset String}
    (notChosen : entry.name ∉ chosen) :
    entry.reusedIn chosen = entry := by
  rw [Entry.reusedIn, if_neg notChosen]

namespace Registry

variable {registry : Registry} {chosen : Finset String} {entry : Entry} {name : String}

def only (registry : Registry) (chosen : Finset String) : Registry :=
  ⟨registry.entries.filter fun entry => entry.name ∈ chosen⟩

def reusing (registry : Registry) (chosen : Finset String) : Registry :=
  ⟨registry.entries.map fun entry => entry.reusedIn chosen⟩

private theorem mem_only : entry ∈ (registry.only chosen).entries ↔
    entry ∈ registry.entries ∧ entry.name ∈ chosen := by
  simp [only]

private theorem only_names_nodup (distinct : registry.names.Nodup) :
    (registry.only chosen).names.Nodup :=
  distinct.sublist (List.filter_sublist.map Entry.name)

private theorem find?_only_of_notMem (notChosen : name ∉ chosen) :
    (registry.only chosen).find? name = none := by
  rw [find?_eq_none_iff]
  intro recorded
  rcases List.mem_map.mp recorded with ⟨entry, member, rfl⟩
  exact notChosen (mem_only.mp member).2

private theorem reusing_names : (registry.reusing chosen).names = registry.names := by
  simp [names, reusing, Entry.reusedIn]

private theorem find?_reusing :
    (registry.reusing chosen).find? name =
      (registry.find? name).map fun entry => entry.reusedIn chosen := by
  unfold find? reusing
  rw [List.find?_map]
  rfl

private theorem reusing_agreeOn (names : List String) :
    registry.AgreeOn (registry.reusing chosen) names := by
  intro name _
  unfold address? codeId?
  rw [find?_reusing]
  cases registry.find? name <;> exact ⟨rfl, rfl⟩

end Registry

/-! ## Seeds of the chosen resources -/

namespace Seeds

variable {seeds : Seeds} {registry : Registry} {chosen : Finset String}

private theorem seed_after_only_of_notMem
    {name : String}
    (distinct : registry.names.Nodup)
    (notChosen : name ∉ chosen) :
    (seeds.after (registry.only chosen)).seed name = seeds.seed name := by
  rw [seed_after (Registry.only_names_nodup distinct)]
  unfold Registry.address? Registry.codeId?
  rw [Registry.find?_only_of_notMem notChosen]
  exact Seed.unknown_laidOver _

private theorem after_only_tells
    {entry : Entry}
    (distinct : registry.names.Nodup)
    (sourced : ∀ entry ∈ registry.entries, Provision.Sourced seeds entry)
    (visible : ∀ entry ∈ registry.created, Text.blank entry.address = false)
    (member : entry ∈ registry.entries)
    (isChosen : entry.name ∈ chosen) :
    (seeds.after (registry.only chosen)).Tells entry := by
  apply after_tells (Registry.only_names_nodup distinct)
  · intro other inOnly
    exact sourced other (Registry.mem_only.mp inOnly).1
  · intro other inCreated
    rcases List.mem_filter.mp inCreated with ⟨inOnly, created⟩
    exact visible other (List.mem_filter.mpr ⟨(Registry.mem_only.mp inOnly).1, created⟩)
  · exact Registry.mem_only.mpr ⟨member, isChosen⟩

end Seeds

namespace Provision

variable {answers : Answers} {seeds later : Seeds} {bindings : Variables}
  {registry : Registry} {descriptor : Descriptor} {chosen : Finset String}

/-! ## Visible addresses -/

/-- No instantiation is answered with a blank address. -/
def VisibleAnswers (answers : Answers) : Prop :=
  ∀ codeId payload funds label address,
    answers (.instantiate codeId payload funds label) = .ok address →
      Text.blank address = false

private theorem visible_of_mem_contractsOf
    {α : Type}
    {exchange : Exchange α}
    {contract : NewContract}
    (visible : VisibleAnswers answers)
    (member : contract ∈ contractsOf (exchange.rounds (Backend.ofAnswers answers) ())) :
    Text.blank contract.address = false := by
  rcases List.mem_filterMap.mp member with ⟨round, inRounds, made⟩
  have answered : round.answer = answers round.question :=
    Dialogue.answer_of_mem_rounds inRounds
  unfold contract? at made
  split at made
  · rename_i codeId payload funds label address
    cases made
    exact visible codeId payload funds label address answered.symm
  · cases made

/-! ## Settled resources -/

private theorem settle_of_seeded
    {address : String}
    (known : seeds.address? descriptor.name = some address) :
    settle answers seeds bindings registry descriptor =
      ⟨.ok (.ofReuse descriptor.name address (seeds.codeId? descriptor.name)), [], ()⟩ := by
  unfold settle resource
  rw [known]
  rfl

/-- A chosen resource settles without a call, and to what is on record of it. -/
theorem settle_of_tells
    {entry : Entry}
    (tells : later.Tells entry)
    (named : entry.name = descriptor.name) :
    settle answers later bindings registry descriptor =
      ⟨.ok { entry with created := false }, [], ()⟩ := by
  have known := tells.address
  rw [named] at known
  rw [settle_of_seeded known, ← named, tells.codeId]
  rfl

private theorem filter_callsFor_of_mem (isChosen : descriptor.name ∈ chosen) :
    (callsFor answers seeds bindings registry descriptor).filter
      (fun call => call.1 ∉ chosen) = [] := by
  rw [List.filter_eq_nil_iff]
  intro call member
  rcases List.mem_map.mp member with ⟨_, _, rfl⟩
  simpa using isChosen

private theorem filter_callsFor_of_notMem (notChosen : descriptor.name ∉ chosen) :
    (callsFor answers seeds bindings registry descriptor).filter
      (fun call => call.1 ∉ chosen) = callsFor answers seeds bindings registry descriptor := by
  rw [List.filter_eq_self]
  intro call member
  rcases List.mem_map.mp member with ⟨_, _, rfl⟩
  simpa using notChosen

/-- With the later seeds a resource settles as before, and its calls are those that it
made before, or none if it is chosen. -/
theorem settled_reusing
    (sameSeeds : ∀ name, name ∉ chosen → seeds.seed name = later.seed name)
    (tells : ∀ entry ∈ registry.entries, entry.name ∈ chosen → later.Tells entry)
    (settled : Settled answers seeds bindings registry descriptor) :
    Settled answers later bindings (registry.reusing chosen) descriptor ∧
      callsFor answers later bindings (registry.reusing chosen) descriptor =
        (callsFor answers seeds bindings registry descriptor).filter
          fun call => call.1 ∉ chosen := by
  rcases settled with ⟨entry, found, value⟩
  rcases Registry.mem_of_find? found with ⟨member, named⟩
  have foundAgain : (registry.reusing chosen).find? descriptor.name =
      some (entry.reusedIn chosen) := by
    rw [Registry.find?_reusing, found, Option.map_some]
  by_cases isChosen : descriptor.name ∈ chosen
  · have entryChosen : entry.name ∈ chosen := named ▸ isChosen
    have settlement : settle answers later bindings (registry.reusing chosen) descriptor =
        ⟨.ok { entry with created := false }, [], ()⟩ :=
      settle_of_tells (tells entry member entryChosen) named
    rw [filter_callsFor_of_mem isChosen, callsFor, settlement]
    refine ⟨⟨_, foundAgain, ?_⟩, rfl⟩
    rw [settlement, Entry.reusedIn_of_mem entryChosen]
  · have settlement : settle answers seeds bindings registry descriptor =
        settle answers later bindings (registry.reusing chosen) descriptor :=
      settle_congr (sameSeeds descriptor.name isChosen) (Registry.reusing_agreeOn _)
    have notChosen : entry.name ∉ chosen := named ▸ isChosen
    rw [filter_callsFor_of_notMem isChosen, callsFor, callsFor, settlement]
    refine ⟨⟨_, foundAgain, ?_⟩, rfl⟩
    rw [← settlement, Entry.reusedIn_of_notMem notChosen, value]

/-! ## The later run -/

variable {graph : Graph}

private theorem finishes_reusing
    (valid : Graph.Valid graph)
    (finished : (conduct answers seeds bindings graph.resources Registry.empty).value =
      .ok registry)
    (sameSeeds : ∀ name, name ∉ chosen → seeds.seed name = later.seed name)
    (tells : ∀ entry ∈ registry.entries, entry.name ∈ chosen → later.Tells entry) :
    (conduct answers later bindings graph.resources Registry.empty).value =
        .ok (registry.reusing chosen) ∧
      labelledCalls answers later bindings graph.resources Registry.empty =
        (labelledCalls answers seeds bindings graph.resources Registry.empty).filter
          fun call => call.1 ∉ chosen := by
  rcases settled_of_finished (Reached.start valid) finished with ⟨_, names, settled, calls⟩
  have settledAgain := fun descriptor member =>
    settled_reusing sameSeeds tells (settled descriptor member)
  rcases finishes_of_settled (Reached.start valid) (by simp)
      (fun descriptor member => (settledAgain descriptor member).1) with
    ⟨final, finishedAgain, finalNames, finds, callsAgain⟩
  constructor
  · have sameRegistry : final = registry.reusing chosen := by
      apply Registry.eq_of_find?
      · rw [Registry.reusing_names, names]
        exact valid.distinct
      · rw [Registry.reusing_names, names, finalNames]
      · intro name recorded
        rw [Registry.reusing_names, names] at recorded
        apply finds
        rw [finalNames]
        exact recorded
    rw [finishedAgain, sameRegistry]
  · rw [calls, callsAgain, List.filter_flatMap]
    exact List.flatMap_congr fun descriptor member => (settledAgain descriptor member).2

private theorem sourced_of_finished
    (finished : ((provision graph seeds bindings).play (Backend.ofAnswers answers) ()).value =
      .ok registry) :
    ∀ entry ∈ registry.entries, Sourced seeds entry := by
  have ends := ends_provision graph seeds bindings (Backend.ofAnswers answers) ()
  rw [finished] at ends
  exact ends.sourced

private theorem visible_of_finished
    (visible : VisibleAnswers answers)
    (finished : ((provision graph seeds bindings).play (Backend.ofAnswers answers) ()).value =
      .ok registry) :
    ∀ entry ∈ registry.created, Text.blank entry.address = false := by
  have ends := ends_provision graph seeds bindings (Backend.ofAnswers answers) ()
  rw [finished] at ends
  intro entry created
  rcases exists_madeFor ends.madeFor created with ⟨contract, made, madeFor⟩
  rw [madeFor.address]
  exact visible_of_mem_contractsOf visible made

private theorem created_eq_false_iff
    {entry : Entry}
    (sourced : Sourced seeds entry) :
    (entry.reusedIn chosen).created = false ↔
      entry.name ∈ chosen ∨ seeds.address? entry.name ≠ none := by
  by_cases isChosen : entry.name ∈ chosen
  · simp [Entry.reusedIn_of_mem isChosen, isChosen]
  · rw [Entry.reusedIn_of_notMem isChosen]
    cases sourced with
    | seeded known => simp [Entry.ofReuse, known]
    | @created name address codeId unseeded =>
        have notChosen : name ∉ chosen := isChosen
        simp [Entry.ofCreation, unseeded, notChosen]

/-- A resource that is reused stands for the one that was created. Take a provisioning
that came to its end, against answers that depend on the call alone and give no blank
address, and put what it has on record of any chosen resources over its seeds. Then the
provisioning with these seeds comes to its end as well, with the same names, addresses
and code ids in the same order; what counts as created is what was not chosen and not
seeded before; and its calls are those of the first one without the calls made for the
chosen resources. -/
theorem provision_of_reused
    {descriptors : List Descriptor}
    {graph : Graph}
    (built : Graph.build descriptors = .ok graph)
    (seeds : Seeds)
    (bindings : Variables)
    (answers : Answers)
    (visible : VisibleAnswers answers)
    {registry : Registry}
    (finished : ((provision graph seeds bindings).play (Backend.ofAnswers answers) ()).value =
      .ok registry)
    (chosen : Finset String) :
    let run := (provision graph seeds bindings).play (Backend.ofAnswers answers) ()
    let calls := labelledCalls answers seeds bindings graph.resources Registry.empty
    let again := (provision graph (seeds.after (registry.only chosen)) bindings).play
      (Backend.ofAnswers answers) ()
    run.questions = calls.map Prod.snd ∧
      again.questions = (calls.filter fun call => call.1 ∉ chosen).map Prod.snd ∧
      ∃ reused, again.value = .ok reused ∧
        (reused.entries.map fun entry => (entry.name, entry.address, entry.codeId)) =
          (registry.entries.map fun entry => (entry.name, entry.address, entry.codeId)) ∧
        ∀ entry ∈ reused.entries, entry.created = false ↔
          entry.name ∈ chosen ∨ seeds.address? entry.name ≠ none := by
  intro run calls again
  have valid := Graph.valid_of_build built
  have sourced := sourced_of_finished finished
  have distinct : registry.names.Nodup := by
    have ends := ends_provision graph seeds bindings (Backend.ofAnswers answers) ()
    rw [finished] at ends
    exact ends.names_nodup valid.distinct
  have sameSeeds : ∀ name, name ∉ chosen →
      seeds.seed name = (seeds.after (registry.only chosen)).seed name :=
    fun name notChosen => (Seeds.seed_after_only_of_notMem distinct notChosen).symm
  have tells : ∀ entry ∈ registry.entries, entry.name ∈ chosen →
      (seeds.after (registry.only chosen)).Tells entry :=
    fun entry member isChosen => Seeds.after_only_tells distinct sourced
      (visible_of_finished visible finished) member isChosen
  rcases finishes_reusing valid finished sameSeeds tells with ⟨finishedAgain, callsAgain⟩
  refine ⟨conduct_questions, ?_, registry.reusing chosen, finishedAgain, ?_, ?_⟩
  · rw [← callsAgain]
    exact conduct_questions
  · rw [Registry.reusing, List.map_map]
    rfl
  · intro entry member
    rcases List.mem_map.mp member with ⟨recorded, inRegistry, rfl⟩
    exact created_eq_false_iff (sourced recorded inRegistry)

private theorem visibleAnswers_steady : VisibleAnswers steady := by
  intro codeId payload funds label address answered
  obtain rfl := Except.ok.inj answered
  split <;> decide

theorem provision_of_reused_vault :
    let bindings : Variables := [("owner", "sei1owner")]
    let registry : Registry :=
      ⟨[.ofCreation "vault" 9 "sei1vault", .ofCreation "twin" 9 "sei1other"]⟩
    let exchange := provision ⟨[vault, twin]⟩ Seeds.empty bindings
    let calls := labelledCalls steady Seeds.empty bindings [vault, twin] Registry.empty
    let again := (provision ⟨[vault, twin]⟩
      (Seeds.empty.after (registry.only {"vault"})) bindings).play
        (Backend.ofAnswers steady) ()
    Graph.build [twin, vault] = .ok ⟨[vault, twin]⟩ ∧
      VisibleAnswers steady ∧
      (exchange.play (Backend.ofAnswers steady) ()).value = .ok registry ∧
      calls.map Prod.fst = ["vault", "vault", "twin"] ∧
      again.questions = (calls.filter fun call => call.1 ∉ ({"vault"} : Finset String)).map
        Prod.snd ∧
      ∃ reused, again.value = .ok reused ∧
        (reused.entries.map fun entry => (entry.name, entry.address, entry.codeId)) =
          [("vault", "sei1vault", some 9), ("twin", "sei1other", some 9)] ∧
        ∀ entry ∈ reused.entries, entry.created = false ↔
          entry.name ∈ ({"vault"} : Finset String) ∨
            Seeds.empty.address? entry.name ≠ none := by
  have built : Graph.build [twin, vault] = .ok ⟨[vault, twin]⟩ := rfl
  have again := provision_of_reused built Seeds.empty [("owner", "sei1owner")] steady
    visibleAnswers_steady rfl {"vault"}
  exact ⟨built, visibleAnswers_steady, rfl, rfl, again.2⟩

end Provision

end Rollout
