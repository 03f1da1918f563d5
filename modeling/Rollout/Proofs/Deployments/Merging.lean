import Rollout.Proofs.Deployments.Recording

/-!
Contract: an object before and after a registry is merged into it.

Owns:
- which values have a place for deployments;
- what a merged registry changes in an object, and that this determines the object;
- that recording a registry makes this change, and is refused exactly where there is no
  place for it.

Does not own: the file that holds the object.
-/

namespace Rollout.Deployments

variable {registry : Registry} {deployments members merged others : List (String × Json)}
  {entries : List Entry} {entry : Entry} {name : String}

/-- A value has a place for deployments: it is an object, and what it holds under the name of
the deployments, if anything, is an object or null. -/
def HasPlace (value : Json) : Prop :=
  ∃ members, value = .object members ∧ ∀ held, members.lookup memberName = some held →
    held = .null ∨ ∃ deployments, held = .object deployments

def recordIn? (members : List (String × Json)) (name : String) : Option Json :=
  (members.lookup memberName).bind fun deployments => deployments.member? name

/-- The record of an entry: its address and its code id, which is null if it is not known,
and nothing else. -/
def recordOf (entry : Entry) : Json :=
  .object
    [("address", .string entry.address),
      ("code_id", match entry.codeId with
        | some codeId => .number (.integer codeId.toNat)
        | none => .null)]

/-- An entry that no other of its name follows. -/
def IsLast (registry : Registry) (entry : Entry) : Prop :=
  ∃ before after, registry.entries = before ++ entry :: after ∧
    entry.name ∉ after.map Entry.name

/-- A registry is merged into an object: the last entry of each name is on record under it,
and all else is as it was. Without entries that is the whole object; otherwise there is an
object under the name of the deployments. -/
structure Merges (registry : Registry) (members merged : List (String × Json)) : Prop where
  recorded : ∀ entry, IsLast registry entry → recordIn? merged entry.name = some (recordOf entry)
  keptRecords : ∀ name ∉ registry.names, recordIn? merged name = recordIn? members name
  keptMembers : ∀ name ≠ memberName, merged.lookup name = members.lookup name
  unchanged : registry.entries = [] → merged = members
  place : registry.entries ≠ [] →
    ∃ deployments, merged.lookup memberName = some (.object deployments) ∧
      Json.Ordered deployments
  ordered : Json.Ordered merged

/-! ## Entries -/

private theorem recordOf_eq (entry : Entry) : entryValue entry = recordOf entry := by
  rw [entryValue_eq, recordOf]
  cases entry.codeId <;> rfl

private theorem lookup_withEntries_of_notMem (absent : name ∉ entries.map Entry.name) :
    (withEntries entries deployments).lookup name = deployments.lookup name := by
  induction entries generalizing deployments with
  | nil => rfl
  | cons entry rest inductionHypothesis =>
      rw [List.map_cons, List.mem_cons, not_or] at absent
      obtain ⟨different, notInRest⟩ := absent
      show (withEntries rest _).lookup name = _
      rw [inductionHypothesis notInRest, Json.lookup_insertMember, if_neg different]

private theorem lookup_withEntries_of_isLast (last : IsLast registry entry) :
    (withEntries registry.entries deployments).lookup entry.name = some (recordOf entry) := by
  obtain ⟨before, after, split, unrepeated⟩ := last
  have inOrder : withEntries registry.entries deployments =
      withEntries after
        (Json.insertMember entry.name (entryValue entry) (withEntries before deployments)) := by
    rw [split, withEntries, List.foldl_append]
    rfl
  rw [inOrder, lookup_withEntries_of_notMem unrepeated, Json.lookup_insertMember, if_pos rfl,
    recordOf_eq]

private theorem exists_isLast (recorded : name ∈ registry.names) :
    ∃ entry, IsLast registry entry ∧ entry.name = name := by
  obtain ⟨entries⟩ := registry
  induction entries with
  | nil => exact absurd recorded List.not_mem_nil
  | cons first rest inductionHypothesis =>
      by_cases inRest : name ∈ (Registry.mk rest).names
      · obtain ⟨entry, ⟨before, after, split, unrepeated⟩, named⟩ := inductionHypothesis inRest
        have longer : first :: rest = first :: before ++ entry :: after := by
          rw [show rest = _ from split]
          rfl
        exact ⟨entry, ⟨first :: before, after, longer, unrepeated⟩, named⟩
      · have named : first.name = name := by
          rcases List.mem_cons.mp recorded with same | later
          · exact same.symm
          · exact absurd later inRest
        exact ⟨first, ⟨[], rest, rfl, named ▸ inRest⟩, named⟩

/-! ## Objects -/

private theorem recordIn?_of_lookup
    (held : members.lookup memberName = some (.object deployments))
    (name : String) :
    recordIn? members name = deployments.lookup name := by
  rw [recordIn?, held]
  rfl

/-- An object is determined by what it was before a registry was merged into it. -/
theorem Merges.unique
    (left : Merges registry members merged)
    (right : Merges registry members others) :
    merged = others := by
  by_cases noEntries : registry.entries = []
  · rw [left.unchanged noEntries, right.unchanged noEntries]
  · obtain ⟨deployments, held, ordered⟩ := left.place noEntries
    obtain ⟨otherDeployments, otherHeld, otherOrdered⟩ := right.place noEntries
    have sameDeployments : deployments = otherDeployments := by
      apply ordered.ext otherOrdered
      intro name
      rw [← recordIn?_of_lookup held, ← recordIn?_of_lookup otherHeld]
      by_cases recorded : name ∈ registry.names
      · obtain ⟨entry, last, rfl⟩ := exists_isLast recorded
        rw [left.recorded entry last, right.recorded entry last]
      · rw [left.keptRecords name recorded, right.keptRecords name recorded]
    apply left.ordered.ext right.ordered
    intro name
    by_cases atDeployments : name = memberName
    · rw [atDeployments, held, otherHeld, sameDeployments]
    · rw [left.keptMembers name atDeployments, right.keptMembers name atDeployments]

/-! ## Places -/

private theorem exists_heldBy?_iff :
    (∃ deployments, heldBy? members = some deployments) ↔ HasPlace (.object members) := by
  simp only [heldBy?_eq_some_iff, HasPlace, Json.object.injEq, exists_eq_left']
  constructor
  · rintro ⟨deployments, inMember | ⟨absent | null, _⟩⟩ held found
    · rw [inMember] at found
      exact .inr ⟨deployments, (Option.some.inj found).symm⟩
    · rw [absent] at found
      cases found
    · rw [null] at found
      exact .inl (Option.some.inj found).symm
  · intro place
    cases found : members.lookup memberName with
    | none => exact ⟨[], .inr ⟨.inl rfl, rfl⟩⟩
    | some held =>
        rcases place held found with rfl | ⟨deployments, rfl⟩
        · exact ⟨[], .inr ⟨.inr rfl, rfl⟩⟩
        · exact ⟨deployments, .inl rfl⟩

private theorem recordIn?_of_heldBy? (held : heldBy? members = some deployments) (name : String) :
    recordIn? members name = deployments.lookup name := by
  rcases heldBy?_eq_some_iff.mp held with inMember | ⟨absent | null, rfl⟩
  · exact recordIn?_of_lookup inMember name
  · rw [recordIn?, absent]
    rfl
  · rw [recordIn?, null]
    rfl

/-! ## Merging -/

/-- A registry can be recorded in a value exactly if there is a place for it. -/
theorem exists_merge?_iff {value : Json} :
    (∃ merged, merge? registry value = some merged) ↔ HasPlace value := by
  cases value with
  | object members =>
      rw [← exists_heldBy?_iff, merge?]
      cases heldBy? members with
      | none => simp
      | some deployments => by_cases noEntries : registry.isEmpty <;> simp [noEntries]
  | _ => simp [merge?, HasPlace]

private theorem merges_of_noEntries
    (ordered : Json.Ordered members)
    (noEntries : registry.entries = []) :
    Merges registry members members := by
  constructor
  · rintro entry ⟨before, after, split, _⟩
    rw [noEntries] at split
    exact absurd split.symm (List.append_ne_nil_of_right_ne_nil before (List.cons_ne_nil _ _))
  · exact fun _ _ => rfl
  · exact fun _ _ => rfl
  · exact fun _ => rfl
  · exact fun entries => absurd noEntries entries
  · exact ordered

/-- Entries are put among the deployments that an object holds. -/
theorem merges_withEntries
    (ordered : Json.Ordered members)
    (deploymentsOrdered : Json.Ordered deployments)
    (held : heldBy? members = some deployments)
    (entries : registry.entries ≠ []) :
    Merges registry members
      (Json.insertMember memberName (.object (withEntries registry.entries deployments))
        members) := by
  have inPlace : (Json.insertMember memberName
      (.object (withEntries registry.entries deployments)) members).lookup memberName =
        some (.object (withEntries registry.entries deployments)) := by
    rw [Json.lookup_insertMember, if_pos rfl]
  constructor
  · intro entry last
    rw [recordIn?_of_lookup inPlace, lookup_withEntries_of_isLast last]
  · intro name absent
    rw [recordIn?_of_lookup inPlace, lookup_withEntries_of_notMem absent,
      recordIn?_of_heldBy? held]
  · intro name other
    rw [Json.lookup_insertMember, if_neg other]
  · exact fun noEntries => absurd noEntries entries
  · exact fun _ => ⟨_, inPlace, ordered_withEntries deploymentsOrdered⟩
  · exact Json.ordered_insertMember ordered _ _

/-- Recording a registry in an object with a place for it merges it into the object. -/
theorem exists_merges_of_hasPlace
    {depth : Nat}
    (nested : (Json.object members).Nested (depth + 2))
    (place : HasPlace (.object members))
    (registry : Registry) :
    ∃ merged, merge? registry (.object members) = some (.object merged) ∧
      Merges registry members merged := by
  obtain ⟨deployments, held⟩ := exists_heldBy?_iff.mpr place
  rw [merge?, held]
  by_cases noEntries : registry.entries = []
  · refine ⟨members, ?_, merges_of_noEntries nested.1 noEntries⟩
    simp [Registry.isEmpty, noEntries]
  · refine ⟨_, ?_, merges_withEntries nested.1 (ordered_of_heldBy? nested held) held noEntries⟩
    simp [Registry.isEmpty, noEntries]

end Rollout.Deployments
