import Rollout.Proofs.Provision.Recording
import Rollout.Proofs.Template.Agreement

/-!
Contract: provisioning against answers that depend on the call alone.

Owns:
- that the provisioning of a resource depends on its own seed and on what is on record of
  the resources that it names, and on nothing else;
- the calls of a walk, each with the resource that it is made for;
- settled registries, with which on record every resource comes to its own entry;
- that a walk succeeds if there is a settled registry, and then records a settled one.

Does not own: backends that remember earlier calls.
-/

namespace Rollout

namespace Registry

variable {registry larger : Registry} {entry : Entry} {name : String}

/-- Two registries have the same on record of the given names, new or not. -/
def AgreeOn
    (left right : Registry)
    (names : List String) :
    Prop :=
  ∀ name ∈ names,
    left.address? name = right.address? name ∧ left.codeId? name = right.codeId? name

private theorem agreeOn_of_find?
    {left right : Registry}
    {names : List String}
    (same : ∀ name ∈ names, left.find? name = right.find? name) :
    left.AgreeOn right names := by
  intro name member
  unfold address? codeId?
  rw [same name member]
  exact ⟨rfl, rfl⟩

theorem find?_of_prefix
    (begins : registry.entries <+: larger.entries)
    (found : registry.find? name = some entry) :
    larger.find? name = some entry :=
  begins.find?_eq_some found

/-- What is on record stays as it is when more is recorded. -/
theorem find?_eq_of_prefix
    (begins : registry.entries <+: larger.entries)
    (recorded : name ∈ registry.names) :
    registry.find? name = larger.find? name := by
  rcases exists_entry_of_recorded recorded with ⟨entry, found⟩
  rw [found, find?_of_prefix begins found]

private theorem find?_record_of_ne (different : name ≠ entry.name) :
    (registry.record entry).find? name = registry.find? name := by
  simp [find?, record, List.find?_append, Ne.symm different]

theorem find?_record_self (fresh : entry.name ∉ registry.names) :
    (registry.record entry).find? entry.name = some entry := by
  have notFound : registry.find? entry.name = none := find?_eq_none_iff.mpr fresh
  unfold find? at notFound
  simp [find?, record, List.find?_append, notFound]

/-- Registries of the same names that have the same on record of each are the same. -/
theorem eq_of_find?
    (distinct : registry.names.Nodup)
    (sameNames : larger.names = registry.names)
    (same : ∀ name ∈ registry.names, larger.find? name = registry.find? name) :
    larger = registry := by
  have entries_of_names : ∀ some_registry : Registry, some_registry.names.Nodup →
      some_registry.names.map some_registry.find? = some_registry.entries.map some := by
    intro some_registry namesDistinct
    rw [names, List.map_map]
    apply List.map_congr_left
    intro entry member
    exact find?_of_mem namesDistinct member
  have sameEntries : larger.entries.map some = registry.entries.map some := by
    rw [← entries_of_names registry distinct,
      ← entries_of_names larger (sameNames ▸ distinct), sameNames]
    exact List.map_congr_left same
  have equal : larger.entries = registry.entries :=
    List.map_injective_iff.mpr (Option.some_injective Entry) sameEntries
  cases larger
  cases registry
  exact congrArg Registry.mk equal

end Registry

namespace Provision

variable {left right : Registry} {bindings others : Variables} {descriptor : Descriptor}

/-! ## What a resource depends on -/

/-- Two lists of variables have the same values for the keys that a resource names. -/
def AgreeOnKeys
    (bindings others : Variables)
    (descriptor : Descriptor) :
    Prop :=
  ∀ key, .var key ∈ descriptor.slots → bindings.lookup key = others.lookup key

theorem agreeOnKeys_self : AgreeOnKeys bindings bindings descriptor :=
  fun _ _ => rfl

theorem agreeOnSlots_of_references
    (agree : left.AgreeOn right descriptor.references)
    (agreeOnKeys : AgreeOnKeys bindings others descriptor) :
    (Scope.mk left bindings).AgreeOnSlots ⟨right, others⟩ descriptor.texts := by
  intro text inTexts placeholder inText
  have inSlots := Descriptor.mem_slots_of_text inTexts inText
  cases placeholder with
  | address resource =>
      have named := Descriptor.mem_references_of_slot inSlots rfl
      exact (agree resource named).1
  | codeId resource =>
      have named := Descriptor.mem_references_of_slot inSlots rfl
      exact (agree resource named).2
  | var key => exact agreeOnKeys key inSlots

private theorem fundsOf_congr
    {scope other : Scope}
    (agree : scope.AgreeOnSlots other descriptor.funds.toList) :
    fundsOf scope descriptor = fundsOf other descriptor := by
  unfold fundsOf
  cases funds : descriptor.funds with
  | none => rfl
  | some text =>
      have sameText : scope.resolveText text = other.resolveText text :=
        Scope.resolveText_congr (agree text (by simp [funds]))
      simp only [sameText]

theorem prepare_congr
    {scope other : Scope}
    (agree : scope.AgreeOnSlots other descriptor.texts) :
    prepare scope descriptor = prepare other descriptor := by
  have agreeBoth := Scope.agreeOnSlots_append.mp agree
  unfold prepare
  rw [Scope.resolve_congr descriptor.template agreeBoth.1, fundsOf_congr agreeBoth.2]

theorem create_congr
    (agree : left.AgreeOn right descriptor.references)
    (agreeOnKeys : AgreeOnKeys bindings others descriptor) :
    create ⟨left, bindings⟩ descriptor = create ⟨right, others⟩ descriptor := by
  unfold create
  rw [prepare_congr (agreeOnSlots_of_references agree agreeOnKeys)]
  cases artifact : descriptor.artifact with
  | upload locator => rfl
  | reuse source =>
      have named := Descriptor.mem_references_of_reuse artifact
      simp only [(agree source named).2]

/-- The provisioning of a resource depends on its own seed, and on what is on record of
the resources that it names. -/
theorem resource_congr
    {seeds later : Seeds}
    (sameSeed : seeds.seed descriptor.name = later.seed descriptor.name)
    (agree : left.AgreeOn right descriptor.references) :
    resource seeds ⟨left, bindings⟩ descriptor = resource later ⟨right, bindings⟩ descriptor := by
  unfold resource Seeds.address? Seeds.codeId?
  rw [sameSeed, create_congr agree agreeOnKeys_self]

/-! ## Stateless answers -/

/-- What is answered to each call, whatever was called before. -/
abbrev Answers : Type :=
  (call : Call) → call.Answer

/-- Answers that know one code id and two addresses. -/
def steady : Answers
  | .registerArtifact _ => .ok 9
  | .instantiate _ _ _ label => .ok (if label = "Vault" then "sei1vault" else "sei1other")
  | _ => .error .unreadable

section

variable (answers : Answers) (seeds : Seeds) (bindings : Variables)

def settle
    (registry : Registry)
    (descriptor : Descriptor) :
    Transcript Call Unit (Except ProvisionFault Entry) :=
  (resource seeds ⟨registry, bindings⟩ descriptor).play (Backend.ofAnswers answers) ()

def conduct
    (resources : List Descriptor)
    (registry : Registry) :
    Transcript Call Unit (Except Aborted Registry) :=
  (walk seeds bindings resources registry).play (Backend.ofAnswers answers) ()

def labelledCalls : List Descriptor → Registry → List (String × Call)
  | [], _ => []
  | descriptor :: rest, registry =>
      let settled := settle answers seeds bindings registry descriptor
      settled.questions.map (fun call => (descriptor.name, call)) ++
        match settled.value with
        | .error _ => []
        | .ok entry => labelledCalls rest (registry.record entry)

/-- With the registry on record, the resource comes to the entry that it has there. -/
def Settled
    (registry : Registry)
    (descriptor : Descriptor) :
    Prop :=
  ∃ entry, registry.find? descriptor.name = some entry ∧
    (settle answers seeds bindings registry descriptor).value = .ok entry

/-- The calls that a resource makes with the registry on record, with its name. -/
def callsFor
    (registry : Registry)
    (descriptor : Descriptor) :
    List (String × Call) :=
  (settle answers seeds bindings registry descriptor).questions.map
    fun call => (descriptor.name, call)

end

variable {answers : Answers} {seeds : Seeds} {registry final : Registry} {entry : Entry}
  {rest resources : List Descriptor}

private theorem settle_name
    (settled : (settle answers seeds bindings registry descriptor).value = .ok entry) :
    entry.name = descriptor.name := by
  have settles := settles_of_path (Dialogue.path_rounds (Backend.ofAnswers answers)
    (resource seeds ⟨registry, bindings⟩ descriptor) ())
  change Settles _ _ _ _ (settle answers seeds bindings registry descriptor).value at settles
  rw [settled] at settles
  exact Live.name_eq settles

private theorem conduct_cons_of_ok
    (settled : (settle answers seeds bindings registry descriptor).value = .ok entry) :
    conduct answers seeds bindings (descriptor :: rest) registry =
      let later := conduct answers seeds bindings rest (registry.record entry)
      ⟨later.value,
        (settle answers seeds bindings registry descriptor).questions ++ later.questions,
        ()⟩ := by
  unfold settle at settled
  rw [conduct, walk, Dialogue.play_bind]
  simp only [settled]
  rfl

private theorem conduct_cons_of_error
    {fault : ProvisionFault}
    (settled : (settle answers seeds bindings registry descriptor).value = .error fault) :
    conduct answers seeds bindings (descriptor :: rest) registry =
      ⟨.error ⟨fault, registry⟩,
        (settle answers seeds bindings registry descriptor).questions, ()⟩ := by
  unfold settle at settled
  rw [conduct, walk, Dialogue.play_bind]
  simp only [settled, Dialogue.play_done, List.append_nil]
  rfl

/-- The labelled calls of a walk are all its calls. -/
theorem conduct_questions :
    (conduct answers seeds bindings resources registry).questions =
      (labelledCalls answers seeds bindings resources registry).map Prod.snd := by
  induction resources generalizing registry with
  | nil => rfl
  | cons descriptor rest inductionHypothesis =>
      rw [labelledCalls]
      cases settled : (settle answers seeds bindings registry descriptor).value with
      | error fault => simp [conduct_cons_of_error settled, Function.comp_def]
      | ok entry =>
          simp [conduct_cons_of_ok settled, inductionHypothesis, Function.comp_def]

/-! ## Settled registries -/

theorem settle_congr
    {later : Seeds}
    (sameSeed : seeds.seed descriptor.name = later.seed descriptor.name)
    (agree : left.AgreeOn right descriptor.references) :
    settle answers seeds bindings left descriptor =
      settle answers later bindings right descriptor := by
  rw [settle, settle, resource_congr sameSeed agree]

/-- A walk through resources in order has got past the first of them, and has them on
record. -/
structure Reached
    (before rest : List Descriptor)
    (registry : Registry) :
    Prop where
  inOrder : Graph.InOrder (before ++ rest)
  distinct : (Graph.namesOf (before ++ rest)).Nodup
  names : registry.names = Graph.namesOf before

namespace Reached

variable {before : List Descriptor} {other : Registry}

theorem start {graph : Graph} (valid : Graph.Valid graph) :
    Reached [] graph.resources Registry.empty :=
  ⟨valid.inOrder, valid.distinct, rfl⟩

private theorem recorded (reached : Reached before (descriptor :: rest) registry) :
    ∀ name ∈ descriptor.references, name ∈ registry.names := by
  rw [reached.names]
  exact reached.inOrder before descriptor rest rfl

private theorem fresh (reached : Reached before (descriptor :: rest) registry) :
    descriptor.name ∉ registry.names := by
  have distinct := reached.distinct
  rw [Graph.namesOf, List.map_append, List.map_cons] at distinct
  rw [reached.names]
  intro earlier
  exact List.disjoint_of_nodup_append distinct earlier List.mem_cons_self

/-- What the next resource names is on record. So registries that have the same of what
is on record agree on it. -/
theorem agreeOn
    (reached : Reached before (descriptor :: rest) registry)
    (same : ∀ name ∈ registry.names, registry.find? name = other.find? name) :
    registry.AgreeOn other descriptor.references := by
  apply Registry.agreeOn_of_find?
  intro name referenced
  exact same name (reached.recorded name referenced)

theorem next
    (reached : Reached before (descriptor :: rest) registry)
    (named : entry.name = descriptor.name) :
    Reached (before ++ [descriptor]) rest (registry.record entry) := by
  have shifted := List.append_cons before descriptor rest
  refine ⟨shifted ▸ reached.inOrder, shifted ▸ reached.distinct, ?_⟩
  simp [reached.names, named]

private theorem find?_record
    (reached : Reached before (descriptor :: rest) registry)
    (named : entry.name = descriptor.name) :
    (registry.record entry).find? descriptor.name = some entry := by
  rw [← named]
  apply Registry.find?_record_self
  rw [named]
  exact reached.fresh

end Reached

/-- What a walk has on record at its end settles every resource that it went through: it
is what each of them came to in its turn, with the same calls. -/
theorem settled_of_finished
    {before : List Descriptor}
    (reached : Reached before rest registry)
    (finished : (conduct answers seeds bindings rest registry).value = .ok final) :
    registry.entries <+: final.entries ∧
      final.names = Graph.namesOf (before ++ rest) ∧
      (∀ descriptor ∈ rest, Settled answers seeds bindings final descriptor) ∧
      labelledCalls answers seeds bindings rest registry =
        rest.flatMap (callsFor answers seeds bindings final) := by
  induction rest generalizing before registry with
  | nil =>
      have same : registry = final := Except.ok.inj finished
      subst same
      refine ⟨List.prefix_refl _, ?_, by simp, rfl⟩
      rw [List.append_nil]
      exact reached.names
  | cons descriptor rest inductionHypothesis =>
      cases settled : (settle answers seeds bindings registry descriptor).value with
      | error fault =>
          rw [conduct_cons_of_error settled] at finished
          cases finished
      | ok entry =>
          rw [conduct_cons_of_ok settled] at finished
          have named := settle_name settled
          rcases inductionHypothesis (reached.next named) finished with
            ⟨begins, names, settledRest, restCalls⟩
          have registryBegins : registry.entries <+: final.entries :=
            (List.prefix_append registry.entries [entry]).trans begins
          have found : final.find? descriptor.name = some entry :=
            Registry.find?_of_prefix begins (reached.find?_record named)
          -- What the resource names was on record in its turn, and did not change later.
          have agree : registry.AgreeOn final descriptor.references := by
            apply reached.agreeOn
            intro name recorded
            exact Registry.find?_eq_of_prefix registryBegins recorded
          have same : settle answers seeds bindings registry descriptor =
              settle answers seeds bindings final descriptor := settle_congr rfl agree
          have shifted := List.append_cons before descriptor rest
          refine ⟨registryBegins, shifted ▸ names, ?_, ?_⟩
          · refine List.forall_mem_cons.mpr ⟨⟨entry, found, ?_⟩, settledRest⟩
            rw [← same]
            exact settled
          · rw [labelledCalls, List.flatMap_cons, callsFor, ← same]
            simp only [settled, restCalls]

/-- A walk comes to its end if some registry settles all its resources, and then it has
the same on record of each of them, by the same calls. -/
theorem finishes_of_settled
    {before : List Descriptor}
    {full : Registry}
    (reached : Reached before rest registry)
    (same : ∀ name ∈ registry.names, registry.find? name = full.find? name)
    (settled : ∀ descriptor ∈ rest, Settled answers seeds bindings full descriptor) :
    ∃ final, (conduct answers seeds bindings rest registry).value = .ok final ∧
      final.names = Graph.namesOf (before ++ rest) ∧
      (∀ name ∈ final.names, final.find? name = full.find? name) ∧
      labelledCalls answers seeds bindings rest registry =
        rest.flatMap (callsFor answers seeds bindings full) := by
  induction rest generalizing before registry with
  | nil =>
      refine ⟨registry, rfl, ?_, same, rfl⟩
      rw [List.append_nil]
      exact reached.names
  | cons descriptor rest inductionHypothesis =>
      rcases settled descriptor List.mem_cons_self with ⟨entry, found, settledFull⟩
      have sameSettlement : settle answers seeds bindings registry descriptor =
          settle answers seeds bindings full descriptor :=
        settle_congr rfl (reached.agreeOn same)
      have settledNow : (settle answers seeds bindings registry descriptor).value =
          .ok entry := by
        rw [sameSettlement]
        exact settledFull
      have named := settle_name settledNow
      -- The new entry is that of the full registry, and it hides none of the earlier ones.
      have sameNext : ∀ name ∈ (registry.record entry).names,
          (registry.record entry).find? name = full.find? name := by
        intro name member
        rw [Registry.record_names] at member
        rcases List.mem_append.mp member with earlier | isLast
        · have different : name ≠ entry.name := by
            rintro rfl
            exact reached.fresh (named ▸ earlier)
          rw [Registry.find?_record_of_ne different]
          exact same name earlier
        · rw [List.mem_singleton.mp isLast, named, found, reached.find?_record named]
      have settledRest : ∀ other ∈ rest, Settled answers seeds bindings full other :=
        fun other member => settled other (List.mem_cons_of_mem descriptor member)
      rcases inductionHypothesis (reached.next named) sameNext settledRest with
        ⟨final, finished, names, finds, calls⟩
      have shifted := List.append_cons before descriptor rest
      refine ⟨final, ?_, shifted ▸ names, finds, ?_⟩
      · rw [conduct_cons_of_ok settledNow]
        exact finished
      · rw [labelledCalls, List.flatMap_cons, callsFor, ← sameSettlement]
        simp only [settledNow, calls]

end Provision

end Rollout
