import Rollout.Proofs.Graph.Validation

/-!
Contract: which resources the fault of a cycle names.

Owns:
- the items that still wait in a finished sorting, as those from which a cycle can be
  reached;
- the resources from which a cycle of dependencies can be reached, and their places;
- that the fault names exactly these resources, once each and in the declared order.

Does not own: which of several cycles a resource leads to, and every other fault.
-/

namespace Rollout

open Relation

namespace Sorting

variable {needs : List (List Nat)} {item : Nat}

/-- An item waits exactly if it needs another one that is not placed. -/
private theorem Consistent.isWaiting_iff
    {sorting : Sorting}
    {needed : List Nat}
    (consistent : Consistent needs sorting)
    (listed : needs[item]? = some needed) :
    sorting.isWaiting item = true ↔ ∃ other ∈ needed, other ∉ sorting.placed := by
  have count : sorting.waiting.getD item 0 = openNeeds sorting.placed needed := by
    rw [consistent.waiting_eq, List.getD_eq_getElem?_getD, List.getElem?_map, listed]
    rfl
  rw [isWaiting, count, decide_eq_true_iff, Nat.pos_iff_ne_zero, ne_eq, openNeeds_eq_zero_iff]
  simp

/-- What waits in a finished sorting are the items that lead to a cycle. -/
theorem isWaiting_ofNeeds_iff
    (distinct : Distinct needs)
    (inRange : InRange needs)
    (item_lt : item < needs.length) :
    (ofNeeds needs).isWaiting item = true ↔ ReachesCycle needs item := by
  have consistent := ofNeeds_consistent distinct
  have listed : needs[item]? = some needs[item] := List.getElem?_eq_getElem item_lt
  rw [consistent.isWaiting_iff listed, ← notMem_placed_iff distinct inRange item_lt]
  constructor
  · rintro ⟨other, member, notPlaced⟩ placed
    exact notPlaced (consistent.legal.needed_mem placed listed member)
  · exact exists_needed_left_out distinct listed

end Sorting

namespace Graph

variable {descriptors : List Descriptor} {descriptor : Descriptor} {sorting : Sorting}
  {names : List String} {name : String} {place : Nat}

/-! ## Resources that lead to a cycle -/

/-- From a resource a cycle of dependencies can be reached: it is part of one, or it depends,
directly or through others, on a resource that is. -/
def LeadsToCycle
    (descriptors : List Descriptor)
    (name : String) :
    Prop :=
  ∃ other, ReflTransGen (DependsOn descriptors) name other ∧
    TransGen (DependsOn descriptors) other other

private theorem LeadsToCycle.declared (leads : LeadsToCycle descriptors name) :
    name ∈ namesOf descriptors := by
  rcases leads with ⟨other, path, cycle⟩
  have dependsOnSome : ∃ next, DependsOn descriptors name next := by
    rcases path.cases_head with rfl | ⟨next, depends, _⟩
    · rcases TransGen.head'_iff.mp cycle with ⟨next, depends, _⟩
      exact ⟨next, depends⟩
    · exact ⟨next, depends⟩
  rcases dependsOnSome with ⟨_, descriptor, member, rfl, _⟩
  exact List.mem_map_of_mem member

/-- A resource leads to a cycle exactly if its place does. -/
private theorem leadsToCycle_iff_of_getElem?
    (checked : Checked descriptors)
    (atPlace : descriptors[place]? = some descriptor) :
    LeadsToCycle descriptors descriptor.name ↔
      Sorting.ReachesCycle (needsIn descriptors) place := by
  have nameAt : (namesOf descriptors)[place]? = some descriptor.name := by
    rw [List.getElem?_map, atPlace, Option.map_some]
  constructor
  · rintro ⟨other, path, cycle⟩
    have placeOfName : (namesOf descriptors).idxOf descriptor.name = place := by
      rcases List.getElem?_eq_some_iff.mp nameAt with ⟨place_lt, sameName⟩
      rw [← sameName, checked.distinct.idxOf_getElem place place_lt]
    have steps : ∀ name other, DependsOn descriptors name other →
        Sorting.Needs (needsIn descriptors)
          ((namesOf descriptors).idxOf name) ((namesOf descriptors).idxOf other) :=
      fun _ _ => needs_of_dependsOn checked.distinct
    rw [← placeOfName]
    exact ⟨_, path.lift _ steps, cycle.lift _ steps⟩
  · rintro ⟨other, path, cycle⟩
    have nameOfPlace : (namesOf descriptors).getD place "" = descriptor.name := by
      rw [List.getD_eq_getElem?_getD, nameAt, Option.getD_some]
    have steps : ∀ place other, Sorting.Needs (needsIn descriptors) place other →
        DependsOn descriptors
          ((namesOf descriptors).getD place "") ((namesOf descriptors).getD other "") :=
      fun _ _ => dependsOn_of_needs checked
    rw [← nameOfPlace]
    exact ⟨_, path.lift (fun place => (namesOf descriptors).getD place "") steps,
      cycle.lift _ steps⟩

/-! ## Names of waiting resources -/

private theorem mem_stuckNames :
    name ∈ stuckNames descriptors sorting ↔
      ∃ place descriptor, descriptors[place]? = some descriptor ∧
        sorting.isWaiting place = true ∧ descriptor.name = name := by
  unfold stuckNames
  simp only [List.mem_filterMap, Prod.exists, List.mem_zipIdx_iff_getElem?,
    Option.ite_none_right_eq_some, Option.some.injEq]
  exact exists_comm

/-- The waiting resources stand in the order of their declaration. -/
theorem stuckNames_sublist (descriptors : List Descriptor) (sorting : Sorting) :
    (stuckNames descriptors sorting).Sublist (namesOf descriptors) := by
  have filtered : stuckNames descriptors sorting =
      (descriptors.zipIdx.filter fun entry => sorting.isWaiting entry.2).map
        (Descriptor.name ∘ Prod.fst) := by
    rw [← List.filterMap_eq_map, List.filterMap_filter]
    rfl
  have allNames : descriptors.zipIdx.map (Descriptor.name ∘ Prod.fst) = namesOf descriptors := by
    rw [← List.map_map, List.zipIdx_map_fst]
  rw [filtered, ← allNames]
  exact List.filter_sublist.map _

/-! ## The fault of a cycle -/

private theorem build_eq_cyclic_iff :
    build descriptors = .error (.cyclic names) ↔
      (Checked descriptors ∧ ¬ Acyclic descriptors) ∧
        names = stuckNames descriptors (Sorting.ofNeeds (needsIn descriptors)) := by
  constructor
  · intro failed
    have unsortable := exists_build_eq_cyclic_iff.mp ⟨names, failed⟩
    rw [build_of_cyclic unsortable.1 unsortable.2] at failed
    cases failed
    exact ⟨unsortable, rfl⟩
  · rintro ⟨⟨checked, cyclic⟩, rfl⟩
    exact build_of_cyclic checked cyclic

/-- The waiting resources of checked descriptors are those that lead to a cycle. -/
theorem mem_stuckNames_iff_leadsToCycle (checked : Checked descriptors) :
    name ∈ stuckNames descriptors (Sorting.ofNeeds (needsIn descriptors)) ↔
      LeadsToCycle descriptors name := by
  have waiting_iff : ∀ place descriptor, descriptors[place]? = some descriptor →
      ((Sorting.ofNeeds (needsIn descriptors)).isWaiting place = true ↔
        LeadsToCycle descriptors descriptor.name) := by
    intro place descriptor atPlace
    have place_lt : place < (needsIn descriptors).length := by
      simpa using (List.getElem?_eq_some_iff.mp atPlace).1
    rw [leadsToCycle_iff_of_getElem? checked atPlace]
    exact Sorting.isWaiting_ofNeeds_iff (needsIn_distinct checked) (needsIn_inRange checked)
      place_lt
  rw [mem_stuckNames]
  constructor
  · rintro ⟨place, descriptor, atPlace, waits, rfl⟩
    exact (waiting_iff place descriptor atPlace).mp waits
  · intro leads
    rcases List.mem_map.mp leads.declared with ⟨descriptor, member, rfl⟩
    have atPlace := getElem?_idxOf_name checked.distinct member
    exact ⟨_, descriptor, atPlace, (waiting_iff _ descriptor atPlace).mpr leads, rfl⟩

/-- The fault of a cycle names some resource, and it names those that lead to a cycle, once
each and in the order of their declaration. From a resource that it does not name no cycle
can be reached by following dependencies. -/
theorem cyclic_names_lead_to_cycles
    (failed : build descriptors = .error (.cyclic names)) :
    names ≠ [] ∧ names.Sublist (namesOf descriptors) ∧ names.Nodup ∧
      (∀ name, name ∈ names ↔ LeadsToCycle descriptors name) ∧
      ∀ name ∈ namesOf descriptors, name ∉ names →
        ∀ other, ReflTransGen (DependsOn descriptors) name other →
          ¬ TransGen (DependsOn descriptors) other other := by
  rcases build_eq_cyclic_iff.mp failed with ⟨⟨checked, cyclic⟩, rfl⟩
  have asDeclared := stuckNames_sublist descriptors (Sorting.ofNeeds (needsIn descriptors))
  refine ⟨?_, asDeclared, checked.distinct.sublist asDeclared,
    fun _ => mem_stuckNames_iff_leadsToCycle checked, ?_⟩
  · rcases not_forall_not.mp cyclic with ⟨name, cycle⟩
    have leads : LeadsToCycle descriptors name := ⟨name, .refl, cycle⟩
    exact List.ne_nil_of_mem ((mem_stuckNames_iff_leadsToCycle checked).mpr leads)
  · intro name _ notNamed other path cycle
    exact notNamed ((mem_stuckNames_iff_leadsToCycle checked).mpr ⟨other, path, cycle⟩)

def ground : Descriptor :=
  .ofUpload "ground" "ground.wasm" "Ground" .null

def tower : Descriptor :=
  .ofReuse "tower" "ground" "Tower" .null

/-- A resource that depends on one in a cycle. -/
def onlooker : Descriptor :=
  .ofUpload "onlooker" "onlooker.wasm" "Onlooker" (.string "$\x7bahead.address\x7d")

/-- A resource that depends on another one, which reuses its code. -/
def ahead : Descriptor :=
  .ofUpload "ahead" "ahead.wasm" "Ahead" (.string "$\x7bbehind.address\x7d")

def behind : Descriptor :=
  .ofReuse "behind" "ahead" "Behind" .null

def mirror : Descriptor :=
  .ofUpload "mirror" "mirror.wasm" "Mirror" (.string "$\x7bmirror.code_id\x7d")

theorem cyclic_names_of_two_cycles :
    let descriptors := [onlooker, tower, ahead, ground, behind, mirror]
    let names := ["onlooker", "ahead", "behind", "mirror"]
    build descriptors = .error (.cyclic names) ∧
      names.Nodup ∧
      (∀ name, name ∈ names ↔ LeadsToCycle descriptors name) ∧
      ∀ other, ReflTransGen (DependsOn descriptors) "tower" other →
        ¬ TransGen (DependsOn descriptors) other other := by
  intro descriptors names
  have failed : build descriptors = .error (.cyclic names) := rfl
  have exact_names := cyclic_names_lead_to_cycles failed
  exact ⟨failed, exact_names.2.2.1, exact_names.2.2.2.1,
    exact_names.2.2.2.2 "tower" (by decide) (by decide)⟩

end Graph

end Rollout
