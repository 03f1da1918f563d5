import Rollout.Proofs.Lookup
import Rollout.Proofs.Registry
import Rollout.Seeds

/-!
Contract: what seeds say after one seed, several seeds or a registry were put over
them.

Owns:
- that an overlay changes what is known about its name alone, and leaves no name twice;
- that overlays, whatever is laid over, leave no blank address;
- what is known after the overlay of distinct names, and after that of a registry.

Does not own: which registries come from a run.
-/

namespace Rollout

namespace Seed

@[simp] theorem normal_normal (seed : Seed) : seed.normal.normal = seed.normal := by
  simp [normal, Option.filter_filter]

@[simp] theorem unknown_laidOver (seed : Seed) : unknown.laidOver seed = seed := by
  simp [laidOver, unknown]

@[simp] theorem laidOver_unknown (seed : Seed) : seed.laidOver unknown = seed := by
  simp [laidOver, unknown]

theorem address_normal (address : String) (codeId : Option CodeId) :
    (Seed.mk (some address) codeId).normal.address =
      if Text.blank address then none else some address := by
  rw [normal, Option.filter_some]
  cases Text.blank address <;> rfl

theorem visible_of_normal
    {seed : Seed}
    {address : String}
    (isNormal : seed.normal = seed)
    (known : seed.address = some address) :
    Text.blank address = false := by
  have filtered : seed.address.filter (fun address => !Text.blank address) = some address :=
    (congrArg Seed.address isNormal).trans known
  simpa using (Option.filter_eq_some_iff.mp filtered).2

theorem normal_laidOver_normal (upper lower : Seed) :
    (upper.normal.laidOver lower.normal).normal = upper.normal.laidOver lower.normal := by
  have address : (upper.normal.laidOver lower.normal).normal.address =
      (upper.normal.laidOver lower.normal).address := by
    unfold normal laidOver
    cases found : upper.address.filter fun address => !Text.blank address with
    | none => simp [Option.filter_filter]
    | some address =>
        simpa using (Option.filter_eq_some_iff.mp found).2
  exact congrArg (Seed.mk · _) address

theorem laidOver_laidOver (upper lower : Seed) :
    upper.laidOver (upper.laidOver lower) = upper.laidOver lower := by
  rcases upper with ⟨_ | _, _ | _⟩ <;> rfl

end Seed

namespace Seeds

variable {seeds : Seeds} {name other : String}

def names (seeds : Seeds) : List String :=
  seeds.entries.map Prod.fst

/-! ## One overlay -/

private theorem lookup_overlayEntries
    (given : Seed)
    (entries : List (String × Seed)) :
    (overlayEntries name given entries).lookup other =
      if other = name then
        some (given.laidOver ((entries.lookup name).getD Seed.unknown))
      else
        entries.lookup other := by
  induction entries with
  | nil =>
      by_cases same : other = name
      · subst same
        simp [overlayEntries]
      · rw [if_neg same, overlayEntries, lookup_cons_of_ne same]
  | cons entry rest inductionHypothesis =>
      obtain ⟨first, held⟩ := entry
      by_cases atFirst : first = name
      · subst atFirst
        rw [overlayEntries, if_pos rfl]
        by_cases same : other = first
        · subst same
          simp
        · rw [if_neg same, lookup_cons_of_ne same, lookup_cons_of_ne same]
      · rw [overlayEntries, if_neg atFirst, lookup_cons_of_ne (Ne.symm atFirst)]
        by_cases same : other = first
        · subst same
          simp [atFirst]
        · rw [lookup_cons_of_ne same, lookup_cons_of_ne same, inductionHypothesis]

/-- An overlay changes what is known about its name, and nothing else. -/
theorem seed_overlay (given : Seed) :
    (seeds.overlay name given).seed other =
      if other = name then given.normal.laidOver (seeds.seed name) else seeds.seed other := by
  unfold seed overlay
  rw [lookup_overlayEntries]
  split <;> rfl

private theorem map_fst_overlayEntries
    (given : Seed)
    (entries : List (String × Seed)) :
    (overlayEntries name given entries).map Prod.fst =
      if name ∈ entries.map Prod.fst then
        entries.map Prod.fst
      else
        entries.map Prod.fst ++ [name] := by
  induction entries with
  | nil => rfl
  | cons entry rest inductionHypothesis =>
      obtain ⟨first, held⟩ := entry
      by_cases atFirst : first = name
      · subst atFirst
        simp [overlayEntries]
      · rw [overlayEntries, if_neg atFirst, List.map_cons, inductionHypothesis]
        simp only [List.map_cons, List.mem_cons, Ne.symm atFirst, false_or]
        split <;> rfl

theorem overlay_names_nodup
    (distinct : seeds.names.Nodup)
    (given : Seed) :
    (seeds.overlay name given).names.Nodup := by
  unfold names overlay at *
  rw [map_fst_overlayEntries]
  split
  · exact distinct
  · rename_i fresh
    exact List.nodup_append_comm.mp (List.nodup_cons.mpr ⟨fresh, distinct⟩)

/-! ## Overlays in order -/

private theorem overlayAll_names_nodup
    (distinct : seeds.names.Nodup)
    (overlays : List (String × Seed)) :
    (seeds.overlayAll overlays).names.Nodup := by
  induction overlays generalizing seeds with
  | nil => exact distinct
  | cons entry rest inductionHypothesis =>
      exact inductionHypothesis (overlay_names_nodup distinct entry.2)

/-- Overlays of distinct names say of each name what its own overlay says. -/
theorem seed_overlayAll
    {overlays : List (String × Seed)}
    (distinct : (Seeds.mk overlays).names.Nodup) :
    (seeds.overlayAll overlays).seed name =
      ((Seeds.mk overlays).seed name).normal.laidOver (seeds.seed name) := by
  induction overlays generalizing seeds with
  | nil => exact (Seed.unknown_laidOver _).symm
  | cons entry rest inductionHypothesis =>
      obtain ⟨first, given⟩ := entry
      obtain ⟨fresh, restDistinct⟩ := List.nodup_cons.mp distinct
      have others : (seeds.overlayAll ((first, given) :: rest)).seed name =
          ((Seeds.mk rest).seed name).normal.laidOver ((seeds.overlay first given).seed name) :=
        inductionHypothesis restDistinct
      rw [others, seed_overlay]
      -- The head decides about its own name, since no later overlay has that name.
      by_cases same : name = first
      · subst same
        have notInRest : rest.lookup name = none := by
          rw [List.lookup_eq_none_iff]
          intro later member
          have different : name ≠ later.1 := fun equal =>
            fresh (List.mem_map.mpr ⟨later, member, equal.symm⟩)
          simpa using different
        have restUnknown : (Seeds.mk rest).seed name = Seed.unknown := by
          simp [seed, notInRest]
        have ofName : (Seeds.mk ((name, given) :: rest)).seed name = given := by
          simp [seed]
        rw [if_pos rfl, restUnknown, ofName]
        exact Seed.unknown_laidOver _
      · have inRest : (Seeds.mk ((first, given) :: rest)).seed name =
            (Seeds.mk rest).seed name := by
          simp only [seed, lookup_cons_of_ne same]
        rw [if_neg same, inRest]

/-! ## Normal seeds -/

/-- No resource is known by a blank address. Seeds are made from none by overlays, which
keep it so. -/
def Normal (seeds : Seeds) : Prop :=
  ∀ name, (seeds.seed name).normal = seeds.seed name

theorem normal_empty : empty.Normal :=
  fun _ => rfl

theorem Normal.overlay
    (normal : seeds.Normal)
    (name : String)
    (given : Seed) :
    (seeds.overlay name given).Normal := by
  intro other
  rw [seed_overlay]
  split
  · rw [← normal name]
    exact Seed.normal_laidOver_normal _ _
  · exact normal other

theorem Normal.overlayAll
    (normal : seeds.Normal)
    (overlays : List (String × Seed)) :
    (seeds.overlayAll overlays).Normal := by
  induction overlays generalizing seeds with
  | nil => exact normal
  | cons entry rest inductionHypothesis =>
      exact inductionHypothesis (normal.overlay entry.1 entry.2)

/-! ## Registries -/

/-- The seeds of a later run: a registry put over what was known before. -/
def after
    (seeds : Seeds)
    (registry : Registry) :
    Seeds :=
  seeds.overlayAll (ofRegistry registry).entries

private theorem lookup_map_entries
    (entries : List Entry)
    (given : Entry → Seed) :
    (entries.map fun entry => (entry.name, given entry)).lookup name =
      (entries.find? fun entry => entry.name == name).map given := by
  induction entries with
  | nil => rfl
  | cons entry rest inductionHypothesis =>
      by_cases same : name = entry.name
      · subst same
        simp
      · rw [List.map_cons, lookup_cons_of_ne same, List.find?_cons,
          beq_false_of_ne (Ne.symm same)]
        exact inductionHypothesis

private theorem ofRegistry_names_nodup (registry : Registry) :
    (ofRegistry registry).names.Nodup :=
  overlayAll_names_nodup (show empty.names.Nodup from List.nodup_nil) _

/-- As seeds, a registry says of a name what it has on record; a blank address counts
as none. -/
theorem seed_ofRegistry
    {registry : Registry}
    (distinct : registry.names.Nodup) :
    (ofRegistry registry).seed name =
      (Seed.mk (registry.address? name) (registry.codeId? name)).normal := by
  have keys : (Seeds.mk (registry.entries.map fun entry =>
      (entry.name, Seed.mk (some entry.address) entry.codeId))).names = registry.names := by
    simp [names, Registry.names]
  unfold ofRegistry
  rw [seed_overlayAll (keys ▸ distinct)]
  simp only [seed, lookup_map_entries, Registry.address?, Registry.codeId?, Registry.find?]
  cases registry.entries.find? fun entry => entry.name == name with
  | none => rfl
  | some entry => exact Seed.laidOver_unknown _

/-- Over what was known before, a registry puts the addresses and code ids that it has
on record. -/
theorem seed_after
    {registry : Registry}
    (distinct : registry.names.Nodup) :
    (seeds.after registry).seed name =
      (Seed.mk (registry.address? name) (registry.codeId? name)).normal.laidOver
        (seeds.seed name) := by
  have overlays : (Seeds.mk (ofRegistry registry).entries).names.Nodup :=
    ofRegistry_names_nodup registry
  have known : (Seeds.mk (ofRegistry registry).entries).seed name =
      (Seed.mk (registry.address? name) (registry.codeId? name)).normal :=
    seed_ofRegistry distinct
  rw [after, seed_overlayAll overlays, known, Seed.normal_normal]

end Seeds

end Rollout
