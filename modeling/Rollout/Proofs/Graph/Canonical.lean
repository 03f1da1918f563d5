import Rollout.Proofs.Graph.Validation
import Rollout.Proofs.Sorting.Least

/-!
Contract: which of the valid orders of its descriptors a graph has.

Owns:
- the places of resources in their declaration;
- that valid orders of descriptors are legal orders of their places;
- that the order of a graph is lexicographically before every other valid one, and that
  it is the declared order exactly if that one is valid.

Does not own: lists that do not form a graph.
-/

namespace Rollout.Graph

variable {descriptors resources order : List Descriptor} {graph : Graph}

/-! ## Places in the declaration -/

def declaredPlaces (descriptors resources : List Descriptor) : List Nat :=
  resources.map fun resource => (namesOf descriptors).idxOf resource.name

private theorem atPlaces_declaredPlaces
    (distinct : (namesOf descriptors).Nodup)
    (declared : ∀ resource ∈ resources, resource ∈ descriptors) :
    atPlaces descriptors (declaredPlaces descriptors resources) = resources := by
  unfold atPlaces declaredPlaces
  rw [List.filterMap_map]
  calc
    resources.filterMap _ = resources.filterMap some :=
      List.filterMap_congr fun resource member =>
        getElem?_idxOf_name distinct (declared resource member)
    _ = resources := List.filterMap_some

/-- Different resources of a list are declared at different places. -/
private theorem declaredPlaces_nodup (order_perm : order.Perm descriptors)
    (distinct : (namesOf descriptors).Nodup) :
    (declaredPlaces descriptors order).Nodup := by
  have orderDistinct : (namesOf order).Nodup :=
    (order_perm.map Descriptor.name).nodup_iff.mpr distinct
  have places : declaredPlaces descriptors order =
      (namesOf order).map (namesOf descriptors).idxOf := by
    simp [declaredPlaces, namesOf]
  rw [places]
  refine List.Nodup.map_on ?_ orderDistinct
  intro name member other _ samePlace
  have declared : name ∈ namesOf descriptors :=
    (order_perm.map Descriptor.name).mem_iff.mp member
  exact (List.idxOf_inj declared).mp samePlace

private theorem declaredPlaces_atPlaces
    {places : List Nat}
    (distinct : (namesOf descriptors).Nodup)
    (inRange : ∀ place ∈ places, place < descriptors.length) :
    declaredPlaces descriptors (atPlaces descriptors places) = places := by
  unfold declaredPlaces atPlaces
  rw [List.map_filterMap]
  calc
    places.filterMap _ = places.filterMap some := by
      apply List.filterMap_congr
      intro place member
      have place_lt := inRange place member
      have inNames : place < (namesOf descriptors).length := by simpa using place_lt
      have placeOfName := distinct.idxOf_getElem place inNames
      rw [List.getElem_map] at placeOfName
      rw [List.getElem?_eq_getElem place_lt, Option.map_some, placeOfName]
    _ = places := List.filterMap_some

private theorem declaredPlaces_self (distinct : (namesOf descriptors).Nodup) :
    declaredPlaces descriptors descriptors = List.range descriptors.length := by
  have inRange : ∀ place ∈ List.range descriptors.length, place < descriptors.length :=
    fun place member => List.mem_range.mp member
  have places := declaredPlaces_atPlaces distinct inRange
  rwa [atPlaces_range] at places

/-! ## Valid orders -/

/-- A valid order of descriptors is a legal order of their places. -/
private theorem declaredPlaces_legal
    (distinct : (namesOf descriptors).Nodup)
    (order_perm : order.Perm descriptors)
    (inOrder : InOrder order) :
    Sorting.Legal (needsIn descriptors) (declaredPlaces descriptors order) := by
  intro beforePlaces place afterPlaces split
  rcases List.map_eq_append_iff.mp split with ⟨before, fromHere, rfl, rfl, here⟩
  rcases List.map_eq_cons_iff.mp here with ⟨descriptor, after, rfl, rfl, rfl⟩
  have member : descriptor ∈ descriptors := by
    apply order_perm.subset
    simp
  have placesDistinct := declaredPlaces_nodup order_perm distinct
  rw [split] at placesDistinct
  have notBefore := (List.nodup_append.mp placesDistinct).2.2
  refine ⟨fun inBefore => notBefore _ inBefore _ (by simp) rfl,
    neededPlaces (namesOf descriptors) descriptor, ?_, ?_⟩
  · rw [List.getElem?_map, getElem?_idxOf_name distinct member, Option.map_some]
  · intro other needed
    rcases mem_neededPlaces.mp needed with ⟨name, referenced, rfl⟩
    have earlier := inOrder before descriptor after rfl name referenced
    rcases List.mem_map.mp earlier with ⟨resource, inBefore, rfl⟩
    exact List.mem_map.mpr ⟨resource, inBefore, rfl⟩

/-! ## The order of a graph -/

/-- The resources of a graph are declared at the places that the sorting gives. -/
private theorem declaredPlaces_resources (built : build descriptors = .ok graph) :
    declaredPlaces descriptors graph.resources = placedIn descriptors := by
  rcases build_eq_ok_iff.mp built with ⟨checked, _, rfl⟩
  have legal := (Sorting.ofNeeds_consistent (needsIn_distinct checked)).legal
  apply declaredPlaces_atPlaces checked.distinct
  intro place member
  simpa using legal.item_lt member

private theorem placedIn_complete (built : build descriptors = .ok graph) :
    (placedIn descriptors).length = (needsIn descriptors).length := by
  rcases build_eq_ok_iff.mp built with ⟨checked, acyclic, _⟩
  rw [(placedIn_length_eq_iff checked).mpr acyclic, List.length_map]

/-- Every other valid order is lexicographically after that of the graph. -/
theorem eq_resources_or_lt
    (built : build descriptors = .ok graph)
    (order_perm : order.Perm descriptors)
    (inOrder : InOrder order) :
    order = graph.resources ∨
      declaredPlaces descriptors graph.resources < declaredPlaces descriptors order := by
  have checked := (build_eq_ok_iff.mp built).1
  have greedy := Sorting.ofNeeds_greedy (needsIn_distinct checked)
  have legal := declaredPlaces_legal checked.distinct order_perm inOrder
  have sameLength : (declaredPlaces descriptors order).length =
      (placedIn descriptors).length := by
    rw [placedIn_complete built, declaredPlaces, List.length_map, List.length_map,
      order_perm.length_eq]
  rw [declaredPlaces_resources built]
  rcases greedy.eq_or_lt legal sameLength with samePlaces | before
  · left
    calc
      order = atPlaces descriptors (declaredPlaces descriptors order) :=
        (atPlaces_declaredPlaces checked.distinct fun _ member =>
          order_perm.subset member).symm
      _ = atPlaces descriptors (placedIn descriptors) := by rw [← samePlaces]
      _ = graph.resources := by rw [(build_eq_ok_iff.mp built).2.2]
  · exact Or.inr before

private theorem resources_eq_self_iff (built : build descriptors = .ok graph) :
    graph.resources = descriptors ↔ InOrder descriptors := by
  constructor
  · intro same
    rw [← same]
    exact resources_inOrder built
  · intro inOrder
    rcases build_eq_ok_iff.mp built with ⟨checked, _, rfl⟩
    have legal := declaredPlaces_legal checked.distinct (List.Perm.refl _) inOrder
    rw [declaredPlaces_self checked.distinct,
      ← List.length_map (neededPlaces (namesOf descriptors))] at legal
    have placed := (Sorting.placed_eq_range_iff (needsIn_distinct checked)
      (placedIn_complete built)).mpr legal
    show atPlaces descriptors (Sorting.ofNeeds (needsIn descriptors)).placed = descriptors
    rw [placed, List.length_map, atPlaces_range]

/-- The order of a graph is canonical. It is a valid order of the descriptors, and by
the places at which the resources are declared it is lexicographically before every
other valid order. So it is the declared order exactly if that one is valid. -/
theorem build_resources_least
    (built : build descriptors = .ok graph) :
    (graph.resources.Perm descriptors ∧ InOrder graph.resources) ∧
      (∀ order : List Descriptor, order.Perm descriptors → InOrder order →
        order = graph.resources ∨
          declaredPlaces descriptors graph.resources < declaredPlaces descriptors order) ∧
      (graph.resources = descriptors ↔ InOrder descriptors) := by
  refine ⟨⟨resources_perm built, resources_inOrder built⟩, ?_, resources_eq_self_iff built⟩
  intro order order_perm inOrder
  exact eq_resources_or_lt built order_perm inOrder

def early : Descriptor :=
  .ofUpload "early" "early.wasm" "Early" (.string "$\x7blate.address\x7d")

def late : Descriptor :=
  .ofUpload "late" "late.wasm" "Late" .null

def apart : Descriptor :=
  .ofUpload "apart" "apart.wasm" "Apart" .null

theorem build_resources_least_of_early :
    build [early, apart, late] = .ok ⟨[apart, late, early]⟩ ∧
      declaredPlaces [early, apart, late] [apart, late, early] = [1, 2, 0] ∧
      (∀ order : List Descriptor, order.Perm [early, apart, late] → InOrder order →
        order = [apart, late, early] ∨
          declaredPlaces [early, apart, late] [apart, late, early] <
            declaredPlaces [early, apart, late] order) ∧
      ¬ InOrder [early, apart, late] := by
  have built : build [early, apart, late] = .ok ⟨[apart, late, early]⟩ := rfl
  have least := build_resources_least built
  refine ⟨built, by decide, least.2.1, ?_⟩
  rw [← least.2.2]
  decide

end Rollout.Graph
