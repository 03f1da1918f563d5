import Rollout.Proofs.Graph.Cycles
import Rollout.Proofs.Sorting.Countdown

/-!
Contract: the order of checked descriptors, counted down one release after the other.

Owns:
- what holds of the counts and the queue in every round;
- slots that are emptied when their descriptors are taken;
- that from links to slots nothing is out of range, lowered below zero or taken twice, and
  that the countdown comes to the order, or to the resources that cannot be ordered.

Does not own: lists that fail the checks.
-/

namespace Rollout.Graph

open Sorting (Countdown Consistent Links)

variable {descriptors : List Descriptor} {needs : List (List Nat)} {state : Countdown}
  {places : List Nat}

/-! ## Checked descriptors -/

/-- The descriptors whose needs are found after no name was repeated are checked. -/
private theorem checked_of_allNeeds
    (noRepetition : firstRepeated? [] (namesOf descriptors) = none)
    (found : allNeeds (namesOf descriptors) descriptors = .ok needs) :
    Checked descriptors ∧ needs = needsIn descriptors := by
  rcases repeated_or_unsound_or_checked descriptors with
    ⟨name, before, after, split, distinct, member⟩ | ⟨_, fault, unsound⟩ | checked
  · have repeated : firstRepeated? [] (namesOf descriptors) = some name :=
      firstRepeated?_eq_some_iff.mpr ⟨before, after, split, distinct, by simp, .inr member⟩
    rw [noRepetition] at repeated
    cases repeated
  · rw [allNeeds_eq_error_iff.mpr unsound] at found
    cases found
  · rw [allNeeds_of_sound checked.sound] at found
    exact ⟨checked, (Except.ok.inj found).symm⟩

private theorem mem_namesOf_atPlaces
    {name : String}
    (distinct : (namesOf descriptors).Nodup)
    (declared : name ∈ namesOf descriptors) :
    name ∈ namesOf (atPlaces descriptors places) ↔ (namesOf descriptors).idxOf name ∈ places := by
  constructor
  · intro member
    obtain ⟨descriptor, isPlaced, rfl⟩ := List.mem_map.mp member
    obtain ⟨place, inPlaces, atPlace⟩ := List.mem_filterMap.mp isPlaced
    have named : (namesOf descriptors)[place]? = some descriptor.name := by
      rw [List.getElem?_map, atPlace, Option.map_some]
    obtain ⟨inRange, isName⟩ := List.getElem?_eq_some_iff.mp named
    rw [← isName, distinct.idxOf_getElem place inRange]
    exact inPlaces
  · intro inPlaces
    obtain ⟨descriptor, member, rfl⟩ := List.mem_map.mp declared
    exact List.mem_map_of_mem
      (List.mem_filterMap.mpr ⟨_, inPlaces, getElem?_idxOf_name distinct member⟩)

/-! ## Counts and queue -/

/-- What holds of a countdown over descriptors in every round. -/
structure InStep (descriptors : List Descriptor) (state : Countdown) : Prop where
  /-- A count is the number of distinct dependencies whose resources are not sorted. -/
  counts : ∀ (place : Nat) (descriptor : Descriptor), descriptors[place]? = some descriptor →
    ∃ dependencies : List String,
      descriptor.dependencies = .ok dependencies ∧ dependencies.Nodup ∧
        state.counts[place]? = some
          (dependencies.countP fun name =>
            name ∉ namesOf (atPlaces descriptors state.sorted))
  /-- The queue holds exactly the unsorted places with count zero. -/
  mem_queue : ∀ place, place ∈ state.queue ↔
    place ∉ state.sorted ∧ state.counts[place]? = some 0
  queue_nodup : state.queue.Nodup
  /-- No place was put in the queue twice, and so none is taken from it twice. -/
  queued_nodup : state.queued.Nodup
  /-- What was put in the queue was taken from it, or is in it. -/
  queued_perm : state.queued.Perm (state.sorted ++ state.queue)
  inRange : ∀ place ∈ state.queued, place < descriptors.length

private theorem inStep_of_tracks
    {sorting : Sorting}
    (checked : Checked descriptors)
    (consistent : Consistent (needsIn descriptors) sorting)
    (tracks : Countdown.Tracks state sorting) :
    InStep descriptors state := by
  have counted : state.counts = (needsIn descriptors).map (Sorting.openNeeds state.sorted) := by
    rw [tracks.counts, consistent.waiting_eq, tracks.sorted]
  have free (place : Nat) :
      place ∈ state.queue ↔ Sorting.Free (needsIn descriptors) state.sorted place := by
    rw [tracks.queue, tracks.sorted]
    exact consistent.mem_ready place
  have queueNodup : state.queue.Nodup := by
    rw [tracks.queue]
    exact consistent.ready_increasing.imp Nat.ne_of_lt
  constructor
  case counts =>
    intro place descriptor atPlace
    obtain ⟨wellFormed, declared⟩ := checked.sound descriptor (List.mem_of_getElem? atPlace)
    refine ⟨_, Descriptor.dependencies_of_wellFormed wellFormed,
      Descriptor.nodup_newNames [] descriptor.references, ?_⟩
    rw [counted, List.getElem?_map, List.getElem?_map, atPlace]
    refine congrArg some ?_
    rw [Sorting.openNeeds, neededPlaces, List.countP_map]
    refine List.countP_congr fun name member => ?_
    have isDeclared := declared name (Descriptor.mem_newNames.mp member).1
    simp [mem_namesOf_atPlaces checked.distinct isDeclared]
  case mem_queue =>
    intro place
    rw [free, counted, Sorting.waiting_getElem?_eq_zero_iff]
    rfl
  case queue_nodup => exact queueNodup
  case queued_nodup =>
    refine tracks.queued.nodup_iff.mpr (List.nodup_append'.mpr ⟨?_, queueNodup, ?_⟩)
    · rw [tracks.sorted]
      exact consistent.legal.nodup
    · exact fun place isSorted inQueue => ((free place).mp inQueue).1 isSorted
  case queued_perm => exact tracks.queued
  case inRange =>
    intro place member
    have inNeeds : place < (needsIn descriptors).length := by
      rcases List.mem_append.mp (tracks.queued.mem_iff.mp member) with isSorted | inQueue
      · exact consistent.legal.item_lt (tracks.sorted ▸ isSorted)
      · obtain ⟨_, _, listed, _⟩ := (free place).mp inQueue
        exact (List.getElem?_eq_some_iff.mp listed).1
    simpa using inNeeds

/-! ## Slots -/

/-- Take the descriptors at places out of their slots, in order. Each place must have a slot
that is not empty yet. -/
def takeAll? : List Nat → List (Option Descriptor) → Option (List Descriptor)
  | [], _ => some []
  | place :: rest, slots =>
      match slots[place]? with
      | some (some descriptor) => (takeAll? rest (slots.set place none)).map (descriptor :: ·)
      | _ => none

private theorem takeAll?_eq
    {slots : List (Option Descriptor)}
    (distinct : places.Nodup)
    (filled : ∀ place ∈ places, ∃ descriptor,
      descriptors[place]? = some descriptor ∧ slots[place]? = some (some descriptor)) :
    takeAll? places slots = some (atPlaces descriptors places) := by
  induction places generalizing slots with
  | nil => rfl
  | cons place rest inductionHypothesis =>
      obtain ⟨fresh, restDistinct⟩ := List.nodup_cons.mp distinct
      obtain ⟨⟨descriptor, atPlace, inSlot⟩, restFilled⟩ := List.forall_mem_cons.mp filled
      have others : takeAll? rest (slots.set place none) = some (atPlaces descriptors rest) := by
        apply inductionHypothesis restDistinct
        intro other member
        have different : place ≠ other := fun same => fresh (same ▸ member)
        rw [List.getElem?_set_ne different]
        exact restFilled other member
      rw [takeAll?, inSlot]
      simp only [others, Option.map_some, atPlaces, List.filterMap_cons, atPlace]

private theorem length_atPlaces
    (inRange : ∀ place ∈ places, place < descriptors.length) :
    (atPlaces descriptors places).length = places.length := by
  rw [atPlaces, List.length_filterMap_eq_countP, List.countP_eq_length]
  intro place member
  rw [List.getElem?_eq_getElem (inRange place member), Option.isSome_some]

/-- No slot is found empty when places are taken in a legal order. -/
theorem takeAll?_of_legal (legal : Sorting.Legal (needsIn descriptors) places) :
    takeAll? places (descriptors.map some) = some (atPlaces descriptors places) ∧
      (atPlaces descriptors places).length = places.length := by
  have inRange : ∀ place ∈ places, place < descriptors.length := by
    intro place member
    have inNeeds := legal.item_lt member
    rwa [List.length_map] at inNeeds
  refine ⟨takeAll?_eq legal.nodup fun place member => ?_, length_atPlaces inRange⟩
  have atPlace := List.getElem?_eq_getElem (inRange place member)
  exact ⟨_, atPlace, by rw [List.getElem?_map, atPlace, Option.map_some]⟩

/-! ## The order -/

/-- The order of descriptors that pass the checks, counted down. All needs can be linked. In
every round, the state is that of the sorting after as many steps, the counts are those of the
dependencies whose resources are not sorted, and the queue holds exactly the unsorted places
with count zero, each of which was put there once. As long as it holds one, there is a further
round, so that every dependent is in range and has a count above zero when it is released.
There are no more rounds than descriptors. The last one leaves the queue empty; then no slot is
found empty, and the descriptors taken from the slots are in the order that is built if they
are all there are. -/
theorem build_counts_down
    (noRepetition : firstRepeated? [] (namesOf descriptors) = none)
    (found : allNeeds (namesOf descriptors) descriptors = .ok needs) :
    ∃ links, Links.ofNeeds? needs = some links ∧
      let begun := Countdown.start links.counts
      (∀ count state, begun.rounds? links.dependents count = some state →
        Sorting.run needs count (Sorting.start needs) =
            ⟨state.counts, state.queue, state.sorted⟩ ∧
          InStep descriptors state ∧ state.sorted.length = count ∧ count ≤ descriptors.length ∧
          (state.queue ≠ [] → ∃ next, state.round? links.dependents = some next)) ∧
      ∃ last, begun.rounds? links.dependents last.sorted.length = some last ∧
        last.queue = [] ∧
        takeAll? last.sorted (descriptors.map some) = some (atPlaces descriptors last.sorted) ∧
        (atPlaces descriptors last.sorted).length = last.sorted.length ∧
        build descriptors =
          if last.sorted.length = descriptors.length then
            .ok ⟨atPlaces descriptors last.sorted⟩
          else
            .error (.cyclic (stuckNames descriptors ⟨last.counts, last.queue, last.sorted⟩)) := by
  obtain ⟨checked, rfl⟩ := checked_of_allNeeds noRepetition found
  have distinct := needsIn_distinct checked
  refine ⟨_, Links.ofNeeds?_eq distinct (needsIn_inRange checked), ?rounds, ?last⟩
  case rounds =>
    intro count state reached
    obtain ⟨tracks, sorted⟩ := Countdown.rounds_start distinct reached
    have consistent := (Sorting.start_consistent (needsIn descriptors)).run distinct count
    have atMost : count ≤ descriptors.length := by
      have fits := consistent.legal.length_le
      rwa [← tracks.sorted, sorted, List.length_map] at fits
    exact ⟨tracks.sorting_eq, inStep_of_tracks checked consistent tracks, sorted, atMost,
      tracks.exists_round distinct consistent⟩
  case last =>
    obtain ⟨last, reached, tracks, nothingQueued⟩ := Countdown.exists_rounds_start distinct
    have placed : placedIn descriptors = last.sorted := tracks.sorted.symm
    have legal : Sorting.Legal (needsIn descriptors) last.sorted :=
      placed ▸ (Sorting.ofNeeds_consistent distinct).legal
    obtain ⟨taken, sameLength⟩ := takeAll?_of_legal legal
    refine ⟨last, reached, nothingQueued, taken, sameLength, ?_⟩
    rw [build_of_checked checked, placed, tracks.sorting_eq]

/-- A resource that depends on one without dependencies, twice over, and on one in a cycle. -/
def annex : Descriptor :=
  .ofReuse "annex" "ground" "Annex" (.string "$\x7bground.address\x7d$\x7bmirror.code_id\x7d")

theorem build_counts_down_of_annex_and_mirror :
    let descriptors := [annex, mirror, ground]
    let needs := [[2, 1], [1], []]
    let links : Links := ⟨[[], [0, 1], [0]], [2, 1, 0]⟩
    let state : Countdown := ⟨[1, 1, 0], [], [2], [2]⟩
    firstRepeated? [] (namesOf descriptors) = none ∧
      allNeeds (namesOf descriptors) descriptors = .ok needs ∧
      Links.ofNeeds? needs = some links ∧
      (Countdown.start links.counts).rounds? links.dependents 1 = some state ∧
      InStep descriptors state ∧
      build descriptors = .error (.cyclic ["annex", "mirror"]) := by
  intro descriptors needs links state
  have noRepetition : firstRepeated? [] (namesOf descriptors) = none := rfl
  have found : allNeeds (namesOf descriptors) descriptors = .ok needs := rfl
  obtain ⟨_, linked, rounds, _⟩ := build_counts_down noRepetition found
  obtain rfl : links = _ := Option.some.inj linked
  have reached : (Countdown.start links.counts).rounds? links.dependents 1 = some state := rfl
  obtain ⟨_, inStep, _⟩ := rounds 1 state reached
  exact ⟨noRepetition, found, linked, reached, inStep, rfl⟩

end Rollout.Graph
