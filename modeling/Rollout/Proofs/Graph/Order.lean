import Rollout.Proofs.Graph.Checks
import Rollout.Proofs.Sorting.Cycles

/-!
Contract: the dependencies between named resources, as needs of numbered items.

Owns:
- the dependencies of declared resources, lists without cycles of them, and lists
  in which every descriptor stands after those it depends on;
- checked descriptors, and their needs by place;
- that resources have a cycle exactly if their places have one;
- that the descriptors at the places of a legal order stand in order.

Does not own: which lists of descriptors are checked.
-/

namespace Rollout.Graph

open Relation

variable {descriptors : List Descriptor} {graph : Graph}

/-! ## Dependencies between resources -/

abbrev namesOf (descriptors : List Descriptor) : List String :=
  descriptors.map Descriptor.name

/-- A declared resource names another one. -/
def DependsOn
    (descriptors : List Descriptor)
    (name other : String) :
    Prop :=
  ∃ descriptor ∈ descriptors, descriptor.name = name ∧ other ∈ descriptor.references

def Acyclic (descriptors : List Descriptor) : Prop :=
  ∀ name, ¬ TransGen (DependsOn descriptors) name name

/-- Every descriptor stands after those of the resources that it names. -/
def InOrder (resources : List Descriptor) : Prop :=
  ∀ before descriptor after, resources = before ++ descriptor :: after →
    ∀ name ∈ descriptor.references, name ∈ namesOf before

/-- Descriptors with distinct names and no fault of their own. -/
structure Checked (descriptors : List Descriptor) : Prop where
  distinct : (namesOf descriptors).Nodup
  sound : ∀ descriptor ∈ descriptors, Sound (namesOf descriptors) descriptor

/-! ## Needs of numbered items -/

abbrev needsIn (descriptors : List Descriptor) : List (List Nat) :=
  descriptors.map (neededPlaces (namesOf descriptors))

theorem mem_neededPlaces
    {names : List String}
    {descriptor : Descriptor}
    {place : Nat} :
    place ∈ neededPlaces names descriptor ↔
      ∃ name ∈ descriptor.references, names.idxOf name = place := by
  simp [neededPlaces, Descriptor.mem_newNames]

theorem needsIn_distinct (checked : Checked descriptors) :
    Sorting.Distinct (needsIn descriptors) := by
  intro needed member
  obtain ⟨descriptor, inList, rfl⟩ := List.mem_map.mp member
  refine List.Nodup.map_on ?_ (Descriptor.nodup_newNames [] descriptor.references)
  intro name nameNew other _ samePlace
  have declared : name ∈ namesOf descriptors :=
    (checked.sound descriptor inList).2 name (Descriptor.mem_newNames.mp nameNew).1
  exact (List.idxOf_inj declared).mp samePlace

theorem needsIn_inRange (checked : Checked descriptors) :
    Sorting.InRange (needsIn descriptors) := by
  intro needed member place inNeeded
  obtain ⟨descriptor, inList, rfl⟩ := List.mem_map.mp member
  obtain ⟨name, referenced, rfl⟩ := mem_neededPlaces.mp inNeeded
  have declared := (checked.sound descriptor inList).2 name referenced
  simpa using List.idxOf_lt_length_of_mem declared

/-- The place of a declared resource is that of its descriptor. -/
theorem getElem?_idxOf_name
    (distinct : (namesOf descriptors).Nodup)
    {descriptor : Descriptor}
    (member : descriptor ∈ descriptors) :
    descriptors[(namesOf descriptors).idxOf descriptor.name]? = some descriptor := by
  obtain ⟨place, inRange, rfl⟩ := List.getElem_of_mem member
  have inNames : place < (namesOf descriptors).length := by simpa using inRange
  have nameAt : (namesOf descriptors)[place] = descriptors[place].name := by simp
  rw [← nameAt, distinct.idxOf_getElem place inNames]
  exact List.getElem?_eq_getElem inRange

/-- A dependency of a resource is a need of its place. -/
theorem needs_of_dependsOn
    (distinct : (namesOf descriptors).Nodup)
    {name other : String}
    (depends : DependsOn descriptors name other) :
    Sorting.Needs (needsIn descriptors)
      ((namesOf descriptors).idxOf name) ((namesOf descriptors).idxOf other) := by
  obtain ⟨descriptor, member, rfl, referenced⟩ := depends
  refine ⟨neededPlaces (namesOf descriptors) descriptor, ?_, ?_⟩
  · rw [List.getElem?_map, getElem?_idxOf_name distinct member, Option.map_some]
  · exact mem_neededPlaces.mpr ⟨other, referenced, rfl⟩

/-- A need of a place is a dependency of its resource. -/
theorem dependsOn_of_needs
    (checked : Checked descriptors)
    {place other : Nat}
    (needs : Sorting.Needs (needsIn descriptors) place other) :
    DependsOn descriptors
      ((namesOf descriptors).getD place "") ((namesOf descriptors).getD other "") := by
  obtain ⟨needed, listed, member⟩ := needs
  rw [List.getElem?_map, Option.map_eq_some_iff] at listed
  obtain ⟨descriptor, atPlace, rfl⟩ := listed
  obtain ⟨name, referenced, rfl⟩ := mem_neededPlaces.mp member
  have inList := List.mem_of_getElem? atPlace
  have declared := (checked.sound descriptor inList).2 name referenced
  have found : (namesOf descriptors)[(namesOf descriptors).idxOf name]? = some name := by
    rw [List.getElem?_eq_getElem (List.idxOf_lt_length_of_mem declared), List.getElem_idxOf]
  refine ⟨descriptor, inList, ?_, ?_⟩
  · simp [List.getD_eq_getElem?_getD, atPlace]
  · rw [List.getD_eq_getElem?_getD, found]
    exact referenced

/-- Resources have a cycle exactly if their places have one. -/
theorem acyclic_iff (checked : Checked descriptors) :
    Acyclic descriptors ↔
      ∀ place, ¬ TransGen (Sorting.Needs (needsIn descriptors)) place place := by
  -- A path of one kind is lifted, step by step, to one of the other kind.
  constructor
  · intro acyclic place cycle
    exact acyclic _ (cycle.lift (fun place => (namesOf descriptors).getD place "")
      fun _ _ needs => dependsOn_of_needs checked needs)
  · intro acyclic name cycle
    exact acyclic _ (cycle.lift (fun name => (namesOf descriptors).idxOf name)
      fun _ _ depends => needs_of_dependsOn checked.distinct depends)

/-! ## Descriptors at places -/

theorem atPlaces_range (descriptors : List Descriptor) :
    atPlaces descriptors (List.range descriptors.length) = descriptors := by
  induction descriptors using List.reverseRecOn with
  | nil => rfl
  | append_singleton earlier last inductionHypothesis =>
      have earlierPlaces : atPlaces (earlier ++ [last]) (List.range earlier.length) =
          atPlaces earlier (List.range earlier.length) := by
        refine List.filterMap_congr fun place member => ?_
        exact List.getElem?_append_left (List.mem_range.mp member)
      have lastPlace : atPlaces (earlier ++ [last]) [earlier.length] = [last] := by
        simp [atPlaces]
      rw [List.length_append, List.length_singleton, List.range_succ, atPlaces,
        List.filterMap_append]
      change atPlaces _ _ ++ atPlaces _ _ = _
      rw [earlierPlaces, lastPlace, inductionHypothesis]

theorem atPlaces_perm
    {places : List Nat}
    (all : places.Perm (List.range descriptors.length)) :
    (atPlaces descriptors places).Perm descriptors :=
  calc
    (atPlaces descriptors places).Perm (atPlaces descriptors (List.range descriptors.length)) :=
      all.filterMap _
    _ = descriptors := atPlaces_range descriptors

/-- Descriptors at the places of a legal order stand after those they depend on. -/
theorem atPlaces_inOrder
    (checked : Checked descriptors)
    {places : List Nat}
    (legal : Sorting.Legal (needsIn descriptors) places) :
    InOrder (atPlaces descriptors places) := by
  intro before descriptor after split name referenced
  obtain ⟨beforePlaces, fromHere, rfl, rfl, here⟩ := List.filterMap_eq_append_iff.mp split
  obtain ⟨skipped, place, later, rfl, noneSkipped, atPlace, _⟩ :=
    List.filterMap_eq_cons_iff.mp here
  have listed : (needsIn descriptors)[place]? =
      some (neededPlaces (namesOf descriptors) descriptor) := by
    rw [List.getElem?_map, atPlace, Option.map_some]
  rw [← List.append_assoc] at legal
  have placeBefore := legal.needed_before listed (mem_neededPlaces.mpr ⟨name, referenced, rfl⟩)
  have declared := (checked.sound descriptor (List.mem_of_getElem? atPlace)).2 name referenced
  obtain ⟨other, otherMember, rfl⟩ := List.mem_map.mp declared
  have found := getElem?_idxOf_name checked.distinct otherMember
  -- Places without a descriptor leave nothing behind, so the need is not one of them.
  rcases List.mem_append.mp placeBefore with isBefore | isSkipped
  · exact List.mem_map.mpr ⟨other, List.mem_filterMap.mpr ⟨_, isBefore, found⟩, rfl⟩
  · rw [noneSkipped _ isSkipped] at found
    cases found

end Rollout.Graph
