import Mathlib.Data.List.Nodup
import Rollout.Registry

/-!
Contract: the entries of a registry by their names.

Owns:
- the names after one more entry was recorded;
- that a name finds the one entry that has it, if no name is repeated, and that every
  entry was then recorded when nothing of its name was.

Does not own: which names a run records.
-/

namespace Rollout.Registry

variable {registry : Registry} {entry : Entry} {name : String}

/-- Every entry was recorded when nothing of its name was on record. -/
def Unrepeated (registry : Registry) : Prop :=
  ∀ before entry after, registry.entries = before ++ entry :: after →
    (Registry.mk before).find? entry.name = none

@[simp] theorem empty_names : empty.names = [] :=
  rfl

@[simp] theorem record_names :
    (registry.record entry).names = registry.names ++ [entry.name] := by
  simp [names, record]

theorem find?_eq_none_iff : registry.find? name = none ↔ name ∉ registry.names := by
  simp [find?, names]

theorem find?_of_mem
    (distinct : registry.names.Nodup)
    (member : entry ∈ registry.entries) :
    registry.find? entry.name = some entry := by
  obtain ⟨before, after, split⟩ := List.append_of_mem member
  have fresh : entry.name ∉ before.map Entry.name := by
    simp only [names, split, List.map_append, List.map_cons] at distinct
    exact fun earlier => List.disjoint_of_nodup_append distinct earlier (by simp)
  have skipped : before.find? (fun other => other.name == entry.name) = none := by
    simpa using fresh
  simp [find?, split, List.find?_append, skipped]

theorem mem_of_find?
    (found : registry.find? name = some entry) :
    entry ∈ registry.entries ∧ entry.name = name := by
  have named := List.find?_some found
  exact ⟨List.mem_of_find?_eq_some found, by simpa using named⟩

theorem exists_entry_of_recorded (recorded : name ∈ registry.names) :
    ∃ entry, registry.find? name = some entry :=
  Option.ne_none_iff_exists'.mp fun missing => find?_eq_none_iff.mp missing recorded

theorem unrepeated_of_nodup (distinct : registry.names.Nodup) : registry.Unrepeated := by
  intro before entry after split
  rw [find?_eq_none_iff]
  simp only [names, split, List.map_append, List.map_cons] at distinct
  exact fun earlier => List.disjoint_of_nodup_append distinct earlier (by simp)

end Rollout.Registry
