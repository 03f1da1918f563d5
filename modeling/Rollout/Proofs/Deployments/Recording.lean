import Rollout.Deployments
import Rollout.Proofs.Json.RoundTrip
import Rollout.Proofs.Seeds

/-!
Contract: what recorded deployments say before and after a registry is put among them.

Owns:
- the seeds of recorded deployments, name by name;
- the deployments on record after entries were put among them;
- that a registry can be recorded in every object with deployments.

Does not own: files, and values that are no objects.
-/

namespace Rollout.Deployments

variable {deployments members : List (String × Json)} {entries : List Entry}
  {registry : Registry} {name : String}

/-! ## Seeds -/

def recordedSeed (deployments : List (String × Json)) (name : String) : Seed :=
  ((deployments.lookup name).bind seed?).getD Seed.unknown

/-- Every recorded deployment has the form of a seed. -/
def Readable (deployments : List (String × Json)) : Prop :=
  ∀ member ∈ deployments, ∃ seed, seed? member.2 = some seed

theorem exists_namedSeeds?_iff :
    (∃ named, namedSeeds? deployments = some named) ↔ Readable deployments := by
  unfold Readable
  induction deployments with
  | nil => simp [namedSeeds?]
  | cons member rest inductionHypothesis =>
      obtain ⟨name, value⟩ := member
      rw [List.forall_mem_cons, ← inductionHypothesis, namedSeeds?]
      cases seed? value <;> cases namedSeeds? rest <;> simp

private theorem lookup_namedSeeds?
    {named : List (String × Seed)}
    (read : namedSeeds? deployments = some named) :
    named.lookup name = (deployments.lookup name).bind seed? := by
  induction deployments generalizing named with
  | nil =>
      cases read
      rfl
  | cons member rest inductionHypothesis =>
      obtain ⟨first, value⟩ := member
      unfold namedSeeds? at read
      split at read
      · rename_i seed seeds readFirst readRest
        cases read
        by_cases same : name = first
        · subst same
          simp [readFirst]
        · rw [lookup_cons_of_ne same, lookup_cons_of_ne same]
          exact inductionHypothesis readRest
      · cases read

private theorem names_namedSeeds?
    {named : List (String × Seed)}
    (read : namedSeeds? deployments = some named) :
    named.map Prod.fst = deployments.map Prod.fst := by
  induction deployments generalizing named with
  | nil =>
      cases read
      rfl
  | cons member rest inductionHypothesis =>
      unfold namedSeeds? at read
      split at read
      · rename_i seed seeds _ readRest
        cases read
        rw [List.map_cons, List.map_cons, inductionHypothesis readRest]
      · cases read

/-- The seeds of recorded deployments say of a name what is on record, where a blank
address counts as none. -/
theorem seed_of_seedsOf?
    {value : Json}
    {seeds : Seeds}
    (recorded : recorded? value = some deployments)
    (ordered : Json.Ordered deployments)
    (read : seedsOf? value = some seeds) :
    seeds.seed name = (recordedSeed deployments name).normal := by
  rw [seedsOf?, recorded] at read
  obtain ⟨named, readNamed, rfl⟩ := Option.map_eq_some_iff.mp read
  have distinct : (Seeds.mk named).names.Nodup := by
    rw [Seeds.names, names_namedSeeds? readNamed]
    exact ordered.names_nodup
  have ofName : (Seeds.mk named).seed name = recordedSeed deployments name := by
    rw [Seeds.seed, lookup_namedSeeds? readNamed, recordedSeed]
  rw [Seeds.seed_overlayAll distinct, ofName]
  exact Seed.laidOver_unknown _

/-! ## Entries -/

private theorem unsigned?_ofNat (codeId : CodeId) :
    (Json.ofNat codeId.toNat).unsigned? = some codeId := by
  rw [Json.ofNat]
  show (if codeId.toNat < UInt64.size then some (UInt64.ofNat codeId.toNat) else none) = _
  rw [if_pos codeId.toNat_lt_size, UInt64.ofNat_toNat]

theorem entryValue_eq (entry : Entry) :
    entryValue entry = .object
      [("address", .string entry.address),
        ("code_id", (entry.codeId.map fun codeId => Json.ofNat codeId.toNat).getD .null)] := by
  have ordered : Json.Ordered
      [("address", Json.string entry.address),
        ("code_id", (entry.codeId.map fun codeId => Json.ofNat codeId.toNat).getD .null)] :=
    List.pairwise_pair.mpr (show "address" < "code_id" by decide)
  rw [entryValue, Json.ofMembers, ordered.orderMembers_eq]

/-- An entry is recorded as the seed of its address and its code id. -/
theorem seed?_entryValue (entry : Entry) :
    seed? (entryValue entry) = some ⟨some entry.address, entry.codeId⟩ := by
  have codeId : codeIdField?
      ((entry.codeId.map fun codeId => Json.ofNat codeId.toNat).getD .null) =
        some entry.codeId := by
    cases entry.codeId with
    | none => rfl
    | some codeId =>
        show (Json.ofNat codeId.toNat).unsigned?.map some = _
        rw [unsigned?_ofNat]
        rfl
  have fields : seed? (entryValue entry) =
      seedOfFields? (.string entry.address)
        ((entry.codeId.map fun codeId => Json.ofNat codeId.toNat).getD .null) := by
    rw [entryValue_eq]
    rfl
  rw [fields, seedOfFields?, codeId]
  rfl

theorem printable_entryValue
    (entry : Entry)
    (depth : Nat) :
    (entryValue entry).Printable (depth + 1) := by
  have address : (Json.string entry.address).Printable depth :=
    ⟨Json.nested_scalar nofun nofun, nofun⟩
  have codeId : ((entry.codeId.map fun codeId => Json.ofNat codeId.toNat).getD .null).Printable
      depth := by
    cases entry.codeId with
    | none => exact ⟨Json.nested_scalar nofun nofun, nofun⟩
    | some codeId =>
        refine ⟨Json.nested_scalar nofun nofun, ?_⟩
        rintro number ⟨⟩
        have below : (codeId.toNat : Int) < UInt64.size := by
          exact_mod_cast codeId.toNat_lt_size
        exact Json.readsBack_integer (by simp [Json.greatestNegated]) below
  rw [entryValue, Json.ofMembers, Json.printable_object_iff]
  refine ⟨Json.ordered_orderMembers _, fun member isMember => ?_⟩
  rcases List.mem_pair.mp (Json.mem_orderMembers isMember) with rfl | rfl
  · exact address
  · exact codeId

theorem lookup_withEntries (distinct : registry.names.Nodup) :
    (withEntries registry.entries deployments).lookup name =
      ((registry.find? name).map entryValue).or (deployments.lookup name) := by
  obtain ⟨entries⟩ := registry
  induction entries generalizing deployments with
  | nil => rfl
  | cons entry rest inductionHypothesis =>
      obtain ⟨fresh, restDistinct⟩ := List.nodup_cons.mp distinct
      have others : (withEntries (entry :: rest) deployments).lookup name =
          (((Registry.mk rest).find? name).map entryValue).or
            ((Json.insertMember entry.name (entryValue entry) deployments).lookup name) :=
        inductionHypothesis restDistinct
      rw [others, Json.lookup_insertMember]
      by_cases same : name = entry.name
      · subst same
        have notInRest : (Registry.mk rest).find? entry.name = none :=
          Registry.find?_eq_none_iff.mpr fresh
        have atFirst : (Registry.mk (entry :: rest)).find? entry.name = some entry := by
          simp [Registry.find?]
        rw [notInRest, atFirst, if_pos rfl]
        rfl
      · have inRest : (Registry.mk (entry :: rest)).find? name = (Registry.mk rest).find? name := by
          simp [Registry.find?, Ne.symm same]
        rw [if_neg same, inRest]

theorem ordered_withEntries (ordered : Json.Ordered deployments) :
    Json.Ordered (withEntries entries deployments) := by
  induction entries generalizing deployments with
  | nil => exact ordered
  | cons entry rest inductionHypothesis =>
      exact inductionHypothesis (Json.ordered_insertMember ordered entry.name (entryValue entry))

theorem mem_withEntries
    {member : String × Json}
    (recorded : member ∈ withEntries entries deployments) :
    (∃ entry ∈ entries, member = (entry.name, entryValue entry)) ∨ member ∈ deployments := by
  induction entries generalizing deployments with
  | nil => exact .inr recorded
  | cons entry rest inductionHypothesis =>
      rcases inductionHypothesis recorded with ⟨later, inRest, same⟩ | inserted
      · exact .inl ⟨later, List.mem_cons_of_mem entry inRest, same⟩
      · rcases Json.mem_insertMember inserted with same | earlier
        · exact .inl ⟨entry, List.mem_cons_self, same⟩
        · exact .inr earlier

theorem Readable.withEntries (readable : Readable deployments) :
    Readable (withEntries entries deployments) := by
  intro member recorded
  rcases mem_withEntries recorded with ⟨entry, _, rfl⟩ | earlier
  · exact ⟨_, seed?_entryValue entry⟩
  · exact readable member earlier

/-- After a registry was put among deployments, they say of its names what it has on
record, and of all others what they said before. -/
theorem recordedSeed_withEntries (distinct : registry.names.Nodup) :
    recordedSeed (withEntries registry.entries deployments) name =
      match registry.find? name with
      | some entry => ⟨some entry.address, entry.codeId⟩
      | none => recordedSeed deployments name := by
  unfold recordedSeed
  rw [lookup_withEntries distinct]
  cases found : registry.find? name with
  | none => simp
  | some entry => simp [seed?_entryValue]

/-! ## Values -/

theorem recorded?_object_iff :
    recorded? (.object members) = some deployments ↔
      members.lookup memberName = some (.object deployments) ∨
        members.lookup memberName = none ∧ deployments = [] := by
  rw [recorded?]
  split
  · rename_i absent
    simp [absent, eq_comm]
  · rename_i held
    simp [held]
  · rename_i notObject held
    simp only [held, Option.some.injEq, reduceCtorEq, false_and, or_false, false_iff]
    exact fun isObject => notObject deployments isObject

/-- Where deployments may be absent, they may also be null. -/
theorem heldBy?_eq_some_iff :
    heldBy? members = some deployments ↔
      members.lookup memberName = some (.object deployments) ∨
        (members.lookup memberName = none ∨ members.lookup memberName = some .null) ∧
          deployments = [] := by
  unfold heldBy? memberOrNull
  cases found : members.lookup memberName with
  | none => simp [eq_comm]
  | some held => cases held <;> simp [eq_comm]

theorem heldBy?_of_recorded?
    (recorded : recorded? (.object members) = some deployments) :
    heldBy? members = some deployments := by
  rw [heldBy?_eq_some_iff]
  rcases recorded?_object_iff.mp recorded with held | ⟨absent, nothing⟩
  · exact .inl held
  · exact .inr ⟨.inl absent, nothing⟩

theorem ordered_of_heldBy?
    {depth : Nat}
    (nested : (Json.object members).Nested (depth + 2))
    (held : heldBy? members = some deployments) :
    Json.Ordered deployments := by
  rcases heldBy?_eq_some_iff.mp held with inMember | ⟨_, rfl⟩
  · exact (nested.2 _ (mem_of_lookup inMember)).1
  · exact .nil

/-- A registry can be recorded in an object with deployments. What is in the object
then was there before, or is the deployments with the registry among them. -/
theorem merge?_object
    (recorded : recorded? (.object members) = some deployments)
    (registry : Registry) :
    ∃ merged, merge? registry (.object members) = some (.object merged) ∧
      recorded? (.object merged) = some (withEntries registry.entries deployments) ∧
      (Json.Ordered members → Json.Ordered merged) ∧
      ∀ member ∈ merged, member ∈ members ∨
        member = (memberName, .object (withEntries registry.entries deployments)) := by
  rw [merge?, heldBy?_of_recorded? recorded]
  cases entries : registry.entries with
  | nil =>
      refine ⟨members, ?_, recorded, id, fun member isMember => .inl isMember⟩
      simp [Registry.isEmpty, entries]
  | cons entry rest =>
      refine ⟨Json.insertMember memberName
        (.object (withEntries (entry :: rest) deployments)) members, ?_, ?_, ?_, ?_⟩
      · simp [Registry.isEmpty, entries]
      · rw [recorded?_object_iff, Json.lookup_insertMember, if_pos rfl]
        exact .inl rfl
      · exact fun ordered => Json.ordered_insertMember ordered _ _
      · exact fun member isMember => (Json.mem_insertMember isMember).symm

end Rollout.Deployments
