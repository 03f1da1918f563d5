import Rollout.Proofs.Graph.Order

/-!
Contract: which lists of descriptors form a graph.

Owns:
- the result for each kind of list: repeated names, an unsound descriptor, a cycle,
  and none of these;
- that these kinds are all there are, so that each result stands for one of them;
- that a graph holds the given descriptors, each after those it depends on.

Does not own: which of several valid orders is chosen, and which resources the fault
of a cycle names.
-/

namespace Rollout.Graph

variable {descriptors : List Descriptor} {graph : Graph}

/-! ## Results -/

/-- The fault of the first unsound descriptor. -/
def FirstUnsoundFault
    (descriptors : List Descriptor)
    (fault : GraphFault) :
    Prop :=
  ∃ descriptor,
    IsFirst (fun descriptor => ¬ Sound (namesOf descriptors) descriptor)
      descriptors descriptor ∧
    DescriptorFault (namesOf descriptors) descriptor fault

abbrev placedIn (descriptors : List Descriptor) : List Nat :=
  (Sorting.ofNeeds (needsIn descriptors)).placed

private theorem build_of_repeated
    {name : String}
    (repeated : IsFirstRepeated (namesOf descriptors) name) :
    build descriptors = .error (.duplicate name) := by
  obtain ⟨before, after, split, distinct, member⟩ := repeated
  have found : firstRepeated? [] (namesOf descriptors) = some name :=
    firstRepeated?_eq_some_iff.mpr ⟨before, after, split, distinct, by simp, Or.inr member⟩
  simp only [build, found]

private theorem firstRepeated?_of_distinct (distinct : (namesOf descriptors).Nodup) :
    firstRepeated? [] (namesOf descriptors) = none :=
  firstRepeated?_eq_none_iff.mpr ⟨distinct, by simp⟩

private theorem build_of_unsound
    {fault : GraphFault}
    (distinct : (namesOf descriptors).Nodup)
    (unsound : FirstUnsoundFault descriptors fault) :
    build descriptors = .error fault := by
  have failed := allNeeds_eq_error_iff.mpr unsound
  simp only [build, firstRepeated?_of_distinct distinct, failed]

theorem build_of_checked (checked : Checked descriptors) :
    build descriptors =
      if (placedIn descriptors).length = descriptors.length then
        .ok ⟨atPlaces descriptors (placedIn descriptors)⟩
      else
        .error (.cyclic (stuckNames descriptors (Sorting.ofNeeds (needsIn descriptors)))) := by
  simp only [build, firstRepeated?_of_distinct checked.distinct,
    allNeeds_of_sound checked.sound]

theorem placedIn_length_eq_iff (checked : Checked descriptors) :
    (placedIn descriptors).length = descriptors.length ↔ Acyclic descriptors := by
  rw [acyclic_iff checked, ← Sorting.placed_length_eq_iff (needsIn_distinct checked)
    (needsIn_inRange checked), List.length_map]

theorem build_of_acyclic
    (checked : Checked descriptors)
    (acyclic : Acyclic descriptors) :
    build descriptors = .ok ⟨atPlaces descriptors (placedIn descriptors)⟩ := by
  rw [build_of_checked checked, if_pos ((placedIn_length_eq_iff checked).mpr acyclic)]

theorem build_of_cyclic
    (checked : Checked descriptors)
    (cyclic : ¬ Acyclic descriptors) :
    build descriptors =
      .error (.cyclic (stuckNames descriptors (Sorting.ofNeeds (needsIn descriptors)))) := by
  rw [build_of_checked checked, if_neg (mt (placedIn_length_eq_iff checked).mp cyclic)]

/-! ## Kinds of lists -/

/-- A list has a repeated name, or an unsound descriptor, or it is checked. -/
theorem repeated_or_unsound_or_checked (descriptors : List Descriptor) :
    (∃ name, IsFirstRepeated (namesOf descriptors) name) ∨
      ((namesOf descriptors).Nodup ∧ ∃ fault, FirstUnsoundFault descriptors fault) ∨
      Checked descriptors := by
  cases repeated : firstRepeated? [] (namesOf descriptors) with
  | some name =>
      obtain ⟨before, after, split, distinct, _, member⟩ :=
        firstRepeated?_eq_some_iff.mp repeated
      exact Or.inl ⟨name, before, after, split, distinct, by simpa using member⟩
  | none =>
      have distinct := (firstRepeated?_eq_none_iff.mp repeated).1
      by_cases sound : ∀ descriptor ∈ descriptors, Sound (namesOf descriptors) descriptor
      · exact Or.inr (Or.inr ⟨distinct, sound⟩)
      · obtain ⟨descriptor, first⟩ := exists_isFirst_not sound
        obtain ⟨fault, descriptorFault⟩ := not_sound_iff.mp first.holds_item
        exact Or.inr (Or.inl ⟨distinct, fault, descriptor, first, descriptorFault⟩)

theorem build_eq_ok_iff :
    build descriptors = .ok graph ↔
      Checked descriptors ∧ Acyclic descriptors ∧
        graph = ⟨atPlaces descriptors (placedIn descriptors)⟩ := by
  constructor
  · intro built
    rcases repeated_or_unsound_or_checked descriptors with
      ⟨name, repeated⟩ | ⟨distinct, fault, unsound⟩ | checked
    · rw [build_of_repeated repeated] at built
      cases built
    · rw [build_of_unsound distinct unsound] at built
      cases built
    · by_cases acyclic : Acyclic descriptors
      · rw [build_of_acyclic checked acyclic] at built
        exact ⟨checked, acyclic, (Except.ok.inj built).symm⟩
      · rw [build_of_cyclic checked acyclic] at built
        cases built
  · intro sortable
    obtain ⟨checked, acyclic, rfl⟩ := sortable
    exact build_of_acyclic checked acyclic

private theorem build_eq_duplicate_iff {name : String} :
    build descriptors = .error (.duplicate name) ↔
      IsFirstRepeated (namesOf descriptors) name := by
  refine ⟨fun built => ?_, build_of_repeated⟩
  rcases repeated_or_unsound_or_checked descriptors with
    ⟨found, repeated⟩ | ⟨distinct, fault, unsound⟩ | checked
  · rw [build_of_repeated repeated] at built
    cases built
    exact repeated
  · rw [build_of_unsound distinct unsound] at built
    obtain ⟨_, _, descriptorFault⟩ := unsound
    cases descriptorFault <;> cases built
  · rw [build_of_checked checked] at built
    split at built <;> cases built

/-- A descriptor is at fault exactly if names are distinct and it is the first unsound
one. -/
theorem build_eq_unsound_iff
    {fault : GraphFault}
    (notDuplicate : ∀ name, fault ≠ .duplicate name)
    (notCyclic : ∀ names, fault ≠ .cyclic names) :
    build descriptors = .error fault ↔
      (namesOf descriptors).Nodup ∧ FirstUnsoundFault descriptors fault := by
  refine ⟨fun built => ?_, fun ⟨distinct, unsound⟩ => build_of_unsound distinct unsound⟩
  rcases repeated_or_unsound_or_checked descriptors with
    ⟨found, repeated⟩ | ⟨distinct, found, unsound⟩ | checked
  · rw [build_of_repeated repeated] at built
    exact absurd (Except.error.inj built).symm (notDuplicate found)
  · rw [build_of_unsound distinct unsound] at built
    obtain rfl := Except.error.inj built
    exact ⟨distinct, unsound⟩
  · rw [build_of_checked checked] at built
    split at built
    · cases built
    · exact absurd (Except.error.inj built).symm (notCyclic _)

theorem exists_build_eq_cyclic_iff :
    (∃ names, build descriptors = .error (.cyclic names)) ↔
      Checked descriptors ∧ ¬ Acyclic descriptors := by
  constructor
  · intro failed
    obtain ⟨names, built⟩ := failed
    rcases repeated_or_unsound_or_checked descriptors with
      ⟨found, repeated⟩ | ⟨distinct, fault, unsound⟩ | checked
    · rw [build_of_repeated repeated] at built
      cases built
    · rw [build_of_unsound distinct unsound] at built
      obtain ⟨_, _, descriptorFault⟩ := unsound
      cases descriptorFault <;> cases built
    · refine ⟨checked, fun acyclic => ?_⟩
      rw [build_of_acyclic checked acyclic] at built
      cases built
  · intro unsortable
    obtain ⟨checked, cyclic⟩ := unsortable
    exact ⟨_, build_of_cyclic checked cyclic⟩

/-! ## Graphs -/

/-- What holds of the resources of every graph that is built. -/
structure Valid (graph : Graph) : Prop where
  distinct : graph.names.Nodup
  wellFormed : ∀ descriptor ∈ graph.resources, descriptor.WellFormed
  inOrder : InOrder graph.resources

theorem resources_perm (built : build descriptors = .ok graph) :
    graph.resources.Perm descriptors := by
  obtain ⟨checked, acyclic, rfl⟩ := build_eq_ok_iff.mp built
  have legal := (Sorting.ofNeeds_consistent (needsIn_distinct checked)).legal
  have complete := (placedIn_length_eq_iff checked).mpr acyclic
  rw [← List.length_map (neededPlaces (namesOf descriptors))] at complete
  have all := legal.perm_range complete
  rw [List.length_map] at all
  exact atPlaces_perm all

theorem resources_inOrder (built : build descriptors = .ok graph) :
    InOrder graph.resources := by
  obtain ⟨checked, _, rfl⟩ := build_eq_ok_iff.mp built
  exact atPlaces_inOrder checked
    (Sorting.ofNeeds_consistent (needsIn_distinct checked)).legal

theorem valid_of_build (built : build descriptors = .ok graph) : Valid graph := by
  obtain ⟨checked, _, _⟩ := build_eq_ok_iff.mp built
  have perm := resources_perm built
  constructor
  · exact (perm.map Descriptor.name).nodup_iff.mpr checked.distinct
  · exact fun descriptor member => (checked.sound descriptor (perm.mem_iff.mp member)).1
  · exact resources_inOrder built

/-- A list of descriptors forms a graph exactly if its names are distinct, its
descriptors sound and its dependencies without cycles. The graph holds the given
descriptors in an order in which each comes after those it depends on. Any other list
has one fault: the first repeated name counts first, then the first unsound descriptor,
and a cycle last. -/
theorem build_ok_or_first_fault (descriptors : List Descriptor) :
    ((∃ graph, build descriptors = .ok graph) ↔
        Checked descriptors ∧ Acyclic descriptors) ∧
      (∀ graph, build descriptors = .ok graph →
        graph.resources.Perm descriptors ∧ InOrder graph.resources) ∧
      (∀ name, build descriptors = .error (.duplicate name) ↔
        IsFirstRepeated (namesOf descriptors) name) ∧
      (∀ resource fault,
        build descriptors = .error (.invalidTemplate resource fault) ↔
          (namesOf descriptors).Nodup ∧
            FirstUnsoundFault descriptors (.invalidTemplate resource fault)) ∧
      (∀ resource reference,
        build descriptors = .error (.dangling resource reference) ↔
          (namesOf descriptors).Nodup ∧
            FirstUnsoundFault descriptors (.dangling resource reference)) ∧
      ((∃ names, build descriptors = .error (.cyclic names)) ↔
        Checked descriptors ∧ ¬ Acyclic descriptors) := by
  refine ⟨?_, ?_, ?_, ?_, ?_, exists_build_eq_cyclic_iff⟩
  · constructor
    · intro succeeded
      obtain ⟨graph, built⟩ := succeeded
      obtain ⟨checked, acyclic, _⟩ := build_eq_ok_iff.mp built
      exact ⟨checked, acyclic⟩
    · intro sortable
      obtain ⟨checked, acyclic⟩ := sortable
      exact ⟨_, build_of_acyclic checked acyclic⟩
  · exact fun graph built => ⟨resources_perm built, resources_inOrder built⟩
  · exact fun name => build_eq_duplicate_iff
  · exact fun resource fault => build_eq_unsound_iff (by simp) (by simp)
  · exact fun resource reference => build_eq_unsound_iff (by simp) (by simp)

end Rollout.Graph
