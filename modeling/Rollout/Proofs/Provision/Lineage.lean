import Mathlib.Logic.Relation
import Rollout.Proofs.Configuration.Trace
import Rollout.Proofs.Provision.Creation
import Rollout.Proofs.Provision.Settlement

/-!
Contract: where the code of created resources comes from.

Owns:
- the sources of created resources, followed from one to the next, and the origins at which
  they end;
- that what is created in a provisioning has the code id of its origin, in its record and
  in the call that instantiated it;
- the artifacts that a provisioning registers, one for each created resource with code of
  its own, and one more if it stops right after that.

Does not own: what a code id stands for on a chain.
-/

namespace Rollout

open Relation

def Descriptor.ownsCode (descriptor : Descriptor) : Bool :=
  match descriptor.artifact with
  | .upload _ => true
  | .reuse _ => false

namespace Provision

open Rollout.Configuration (registrations registrations_append)

section Sources

variable (resources : List Descriptor) (seeds : Seeds) (registry : Registry)

def OwnsCode (name : String) : Prop :=
  ∃ descriptor ∈ resources, descriptor.name = name ∧ descriptor.ownsCode = true

instance (name : String) : Decidable (OwnsCode resources name) :=
  inferInstanceAs (Decidable (∃ descriptor ∈ resources, _))

/-- A created resource on record reuses the code of another one, its source. -/
structure Borrows (name source : String) : Prop where
  reuses : ∃ descriptor ∈ resources,
    descriptor.name = name ∧ descriptor.artifact = .reuse source
  created : ∃ entry, registry.find? name = some entry ∧ entry.created = true

/-- A resource on record whose code id is not that of another one. -/
inductive Origin (name : String) (codeId : CodeId) : Prop where
  /-- It was created from an artifact of its own. -/
  | uploaded {address : String}
      (own : OwnsCode resources name)
      (found : registry.find? name = some (.ofCreation name codeId address))
  /-- It was there before and is not created, and its code id is seeded. -/
  | seeded {address : String}
      (known : seeds.address? name = some address)
      (coded : seeds.codeId? name = some codeId)
      (found : registry.find? name = some (.ofReuse name address (some codeId)))

/-- From a resource the sources lead to an origin and end there. -/
structure Descends (name origin : String) (codeId : CodeId) : Prop where
  path : ReflTransGen (Borrows resources registry) name origin
  isOrigin : Origin resources seeds registry origin codeId
  ends : ∀ source, ¬ Borrows resources registry origin source
  /-- From every resource on the way the sources lead on to the same origin. -/
  only : ∀ other, ReflTransGen (Borrows resources registry) name other →
    ReflTransGen (Borrows resources registry) other origin

/-- Every created resource on record has the code id of an origin. -/
def Traced : Prop :=
  ∀ entry ∈ registry.entries, entry.created = true →
    ∃ origin codeId, entry.codeId = some codeId ∧
      ReflTransGen (Borrows resources registry) entry.name origin ∧
      Origin resources seeds registry origin codeId

end Sources

variable {seeds : Seeds} {scope : Scope} {bindings : Variables} {descriptor : Descriptor}
  {resources all : List Descriptor} {registry larger final : Registry}
  {rounds : List CallRound} {entry : Entry} {name source origin : String} {codeId : CodeId}

/-! ## Sources and origins -/

/-- A resource has at most one source. -/
theorem borrows_rightUnique (distinct : (Graph.namesOf all).Nodup) :
    Relator.RightUnique (Borrows all registry) := by
  rintro name source other ⟨⟨descriptor, member, named, reuses⟩, _⟩
    ⟨⟨descriptor', member', named', reuses'⟩, _⟩
  have same : descriptor = descriptor' :=
    List.inj_on_of_nodup_map distinct member member' (named.trans named'.symm)
  rw [same, reuses'] at reuses
  cases reuses
  rfl

private theorem Origin.not_borrows
    (distinct : (Graph.namesOf all).Nodup)
    (isOrigin : Origin all seeds registry origin codeId) :
    ¬ Borrows all registry origin source := by
  rintro ⟨⟨descriptor, member, named, reuses⟩, entry, found, created⟩
  cases isOrigin with
  | uploaded own _ =>
      rcases own with ⟨owner, ownerMember, ownerNamed, ownsCode⟩
      have same : owner = descriptor :=
        List.inj_on_of_nodup_map distinct ownerMember member (ownerNamed.trans named.symm)
      rw [same, Descriptor.ownsCode, reuses] at ownsCode
      cases ownsCode
  | seeded _ _ foundSeeded =>
      rw [foundSeeded] at found
      cases found
      cases created

/-- A path of sources that ends at an origin is the only way there is. -/
theorem descends_of_path
    (distinct : (Graph.namesOf all).Nodup)
    (path : ReflTransGen (Borrows all registry) name origin)
    (isOrigin : Origin all seeds registry origin codeId) :
    Descends all seeds registry name origin codeId := by
  have ends : ∀ source, ¬ Borrows all registry origin source :=
    fun _ => isOrigin.not_borrows distinct
  refine ⟨path, isOrigin, ends, fun other otherPath => ?_⟩
  rcases path.total_of_right_unique (borrows_rightUnique distinct) otherPath with
    beyond | onTheWay
  · rcases beyond.cases_head with rfl | ⟨source, borrows, _⟩
    · exact .refl
    · exact absurd borrows (ends source)
  · exact onTheWay

/-! ## Growing records -/

private theorem Borrows.of_prefix
    (begins : registry.entries <+: larger.entries)
    (borrows : Borrows all registry name source) :
    Borrows all larger name source := by
  rcases borrows with ⟨reuses, entry, found, created⟩
  exact ⟨reuses, entry, Registry.find?_of_prefix begins found, created⟩

private theorem borrowsPath_mono
    (begins : registry.entries <+: larger.entries)
    (path : ReflTransGen (Borrows all registry) name source) :
    ReflTransGen (Borrows all larger) name source :=
  ReflTransGen.mono (fun _ _ => Borrows.of_prefix begins) _ _ path

private theorem Origin.of_prefix
    (begins : registry.entries <+: larger.entries)
    (isOrigin : Origin all seeds registry origin codeId) :
    Origin all seeds larger origin codeId := by
  cases isOrigin with
  | uploaded own found => exact .uploaded own (Registry.find?_of_prefix begins found)
  | seeded known coded found => exact .seeded known coded (Registry.find?_of_prefix begins found)

/-- A code id on record is that of an origin, whether its resource was created or not. -/
theorem Traced.exists_origin
    (traced : Traced all seeds registry)
    (sourced : ∀ entry ∈ registry.entries, Sourced seeds entry)
    (known : registry.codeId? source = some codeId) :
    ∃ origin, ReflTransGen (Borrows all registry) source origin ∧
      Origin all seeds registry origin codeId := by
  rcases Option.bind_eq_some_iff.mp known with ⟨entry, found, coded⟩
  rcases Registry.mem_of_find? found with ⟨member, rfl⟩
  cases sourced entry member with
  | seeded address_known =>
      have sameCode : seeds.codeId? _ = some codeId := coded
      refine ⟨_, .refl, .seeded address_known sameCode ?_⟩
      rw [← sameCode]
      exact found
  | created _ =>
      rcases traced _ member rfl with ⟨origin, recorded, sameCode, path, isOrigin⟩
      rw [coded] at sameCode
      cases sameCode
      exact ⟨origin, path, isOrigin⟩

/-- What becomes live next has the code id of an origin, and so has what is on record. -/
theorem Live.traced
    (live : Live seeds ⟨registry, bindings⟩ descriptor rounds entry)
    (member : descriptor ∈ all)
    (fresh : entry.name ∉ registry.names)
    (sourced : ∀ entry ∈ registry.entries, Sourced seeds entry)
    (traced : Traced all seeds registry) :
    Traced all seeds (registry.record entry) := by
  have begins : registry.entries <+: (registry.record entry).entries := List.prefix_append _ _
  have found := Registry.find?_record_self fresh
  intro other inRecord created
  rcases List.mem_append.mp inRecord with earlier | last
  · rcases traced other earlier created with ⟨origin, codeId, coded, path, isOrigin⟩
    exact ⟨origin, codeId, coded, borrowsPath_mono begins path,
      isOrigin.of_prefix begins⟩
  · obtain rfl := List.mem_singleton.mp last
    cases live with
    | seeded known => cases created
    | @created _ _ codeId _ _ _ coded =>
        cases coded with
        | uploaded own =>
            have ownsCode : descriptor.ownsCode = true := by rw [Descriptor.ownsCode, own]
            exact ⟨descriptor.name, codeId, rfl, .refl,
              .uploaded ⟨descriptor, member, rfl, ownsCode⟩ found⟩
        | @borrowed source _ reuses known =>
            rcases traced.exists_origin sourced known with ⟨origin, path, isOrigin⟩
            have borrows : Borrows all (registry.record _) descriptor.name source :=
              ⟨⟨descriptor, member, rfl, reuses⟩, _, found, rfl⟩
            exact ⟨origin, codeId, rfl,
              .head borrows (borrowsPath_mono begins path),
              isOrigin.of_prefix begins⟩

private theorem Walked.traced
    (walked : Walked seeds bindings resources registry rounds final)
    (inAll : ∀ descriptor ∈ resources, descriptor ∈ all)
    (distinct : final.names.Nodup)
    (sourced : ∀ entry ∈ registry.entries, Sourced seeds entry)
    (traced : Traced all seeds registry) :
    Traced all seeds final := by
  induction walked with
  | done registry => exact traced
  | @next descriptor rest registry final entry first later live others inductionHypothesis =>
      have fresh : entry.name ∉ registry.names := by
        rw [others.names_eq, Registry.record_names, List.append_assoc] at distinct
        exact fun earlier => List.disjoint_of_nodup_append distinct earlier (by simp)
      exact inductionHypothesis
        (fun other member => inAll other (List.mem_cons_of_mem descriptor member)) distinct
        (live.sourced_record sourced)
        (live.traced (inAll descriptor List.mem_cons_self) fresh sourced traced)

/-! ## Registrations -/

def createdOwners (resources : List Descriptor) (registry : Registry) : List Entry :=
  registry.entries.filter fun entry => entry.created && OwnsCode resources entry.name

/-- A registered artifact with its code id, and the entry of the resource that was created
from it. -/
def RegisteredFor
    (resources : List Descriptor)
    (registered : String × CodeId)
    (entry : Entry) :
    Prop :=
  (∃ descriptor ∈ resources,
    descriptor.name = entry.name ∧ descriptor.artifact = .upload registered.1) ∧
    entry.codeId = some registered.2

/-- A provisioning stopped when it instantiated a resource without a seeded address from an
artifact of its own. -/
def StopsAtOwner (resources : List Descriptor) (seeds : Seeds) : Except Aborted Registry → Prop
  | .ok _ => False
  | .error aborted => ∃ descriptor ∈ resources,
      seeds.address? descriptor.name = none ∧ descriptor.ownsCode = true ∧
        ∃ fault, aborted.fault = .backend descriptor.name .instantiate fault

private theorem ownsCode_iff
    (distinct : (Graph.namesOf all).Nodup)
    (member : descriptor ∈ all) :
    OwnsCode all descriptor.name ↔ descriptor.ownsCode = true := by
  constructor
  · rintro ⟨other, otherMember, named, ownsCode⟩
    rwa [List.inj_on_of_nodup_map distinct otherMember member named] at ownsCode
  · exact fun ownsCode => ⟨descriptor, member, rfl, ownsCode⟩

/-- A resource becomes live with one registration if it is created from an artifact of its
own, and with none otherwise. -/
private theorem Live.registeredFor
    (distinct : (Graph.namesOf all).Nodup)
    (live : Live seeds scope descriptor rounds entry)
    (member : descriptor ∈ all) :
    List.Forall₂ (RegisteredFor all) (registrations rounds)
      ([entry].filter fun entry => entry.created && OwnsCode all entry.name) := by
  cases live with
  | seeded known => exact .nil
  | created _ _ coded =>
      have named := ownsCode_iff distinct member
      rw [registrations_append]
      cases coded with
      | uploaded own =>
          have owner : OwnsCode all descriptor.name := by
            rw [named, Descriptor.ownsCode, own]
          simp only [Entry.ofCreation, owner, List.filter_cons, Bool.true_and, decide_true]
          exact .cons ⟨⟨descriptor, member, rfl, own⟩, rfl⟩ .nil
      | borrowed reuses known =>
          have notOwner : ¬ OwnsCode all descriptor.name := by
            rw [named, Descriptor.ownsCode, reuses]
            exact Bool.false_ne_true
          simp only [Entry.ofCreation, notOwner, List.filter_cons, Bool.true_and, decide_false]
          exact .nil

private theorem Walked.registeredFor
    (walked : Walked seeds bindings resources Registry.empty rounds final)
    (distinct : (Graph.namesOf all).Nodup)
    (inAll : ∀ descriptor ∈ resources, descriptor ∈ all) :
    List.Forall₂ (RegisteredFor all) (registrations rounds) (createdOwners all final) :=
  walked.forall₂ (fun member live => live.registeredFor distinct member) inAll .nil

/-- The resource at which a walk stops leaves one registration behind if its instantiation
failed after that, and none otherwise. -/
private theorem Stopped.registrations_length
    {aborted : Aborted}
    {before after : List Descriptor}
    (stopped : Stopped seeds bindings resources Registry.empty rounds aborted
      before descriptor after)
    (distinct : (Graph.namesOf resources).Nodup) :
    (StopsAtOwner resources seeds (.error aborted) ∧
        (registrations rounds).length = (createdOwners resources aborted.registry).length + 1) ∨
      (¬ StopsAtOwner resources seeds (.error aborted) ∧
        (registrations rounds).length = (createdOwners resources aborted.registry).length) := by
  rcases aborted with ⟨fault, registry⟩
  rcases stopped with ⟨split, first, last, rfl, walked, fails⟩
  have member : descriptor ∈ resources := by
    rw [split]
    simp
  have beforeLast := (walked.registeredFor distinct fun other earlier => by
    rw [split]
    exact List.mem_append_left _ earlier).length_eq
  rw [registrations_append, List.length_append, beforeLast]
  cases fails with
  | uninstantiated unseeded _ coded =>
      cases coded with
      | uploaded own =>
          have ownsCode : descriptor.ownsCode = true := by rw [Descriptor.ownsCode, own]
          exact .inl ⟨⟨descriptor, member, unseeded, ownsCode, _, rfl⟩, rfl⟩
      | borrowed reuses _ =>
          refine .inr ⟨?_, rfl⟩
          rintro ⟨other, otherMember, _, ownsCode, _, sameFault⟩
          have sameName : descriptor.name = other.name := by
            injection sameFault
          rw [← List.inj_on_of_nodup_map distinct member otherMember sameName,
            Descriptor.ownsCode, reuses] at ownsCode
          cases ownsCode
  | _ =>
      refine .inr ⟨?_, rfl⟩
      rintro ⟨_, _, _, _, _, sameFault⟩
      simp at sameFault

/-! ## Provisionings -/

private theorem Ends.traced
    {graph : Graph}
    {outcome : Except Aborted Registry}
    (ends : Ends seeds bindings graph.resources Registry.empty rounds outcome)
    (distinct : graph.names.Nodup) :
    Traced graph.resources seeds (recorded outcome) := by
  rcases ends.exists_walked with ⟨before, after, first, split, walked⟩
  refine walked.traced (fun descriptor member => ?_) (ends.names_nodup distinct)
    (by simp [Registry.empty]) nofun
  rw [split]
  exact List.mem_append_left _ member

/-- Every contract that was made has the code id of an origin to which the sources lead from
its resource. -/
theorem Ends.descend
    {graph : Graph}
    {outcome : Except Aborted Registry}
    (ends : Ends seeds bindings graph.resources Registry.empty rounds outcome)
    (distinct : graph.names.Nodup) :
    List.Forall₂
      (fun contract entry => MadeFor graph.resources contract entry ∧
        ∃ origin, Descends graph.resources seeds (recorded outcome) entry.name origin
          contract.codeId)
      (contractsOf rounds) (recorded outcome).created := by
  have origins : ∀ entry ∈ (recorded outcome).created, ∃ origin, ∀ codeId,
      entry.codeId = some codeId →
        Descends graph.resources seeds (recorded outcome) entry.name origin codeId := by
    intro entry member
    rcases List.mem_filter.mp member with ⟨onRecord, created⟩
    rcases ends.traced distinct entry onRecord created with
      ⟨origin, codeId, coded, path, isOrigin⟩
    refine ⟨origin, fun other otherCoded => ?_⟩
    rw [coded] at otherCoded
    cases otherCoded
    exact descends_of_path distinct path isOrigin
  have both := (List.forall₂_and_left _ _).mpr ⟨origins, ends.madeFor.flip⟩
  refine both.flip.imp ?_
  rintro contract entry ⟨⟨origin, descends⟩, made⟩
  exact ⟨made, origin, descends contract.codeId made.codeId⟩

/-- However a provisioning ends, its instantiations that succeeded are those of the created
resources on record, in order, and each has the code id of an origin: from its resource
the sources of created resources lead to an origin that is on record with this code id,
wherever one is on the way, and there they end. The registrations that succeeded are as many
as the created resources with artifacts of their own, and one more exactly if the
provisioning stopped when it instantiated such a resource. -/
theorem created_descend
    {σ : Type}
    {descriptors : List Descriptor}
    {graph : Graph}
    (built : Graph.build descriptors = .ok graph)
    (seeds : Seeds)
    (bindings : Variables)
    (backend : Backend σ)
    (state : σ) :
    let exchange := provision graph seeds bindings
    let outcome := (exchange.play backend state).value
    let rounds := exchange.rounds backend state
    List.Forall₂
        (fun contract entry => MadeFor graph.resources contract entry ∧
          ∃ origin, Descends graph.resources seeds (recorded outcome) entry.name origin
            contract.codeId)
        (contractsOf rounds) (recorded outcome).created ∧
      (StopsAtOwner graph.resources seeds outcome →
        (registrations rounds).length =
          (createdOwners graph.resources (recorded outcome)).length + 1) ∧
      (¬ StopsAtOwner graph.resources seeds outcome →
        (registrations rounds).length =
          (createdOwners graph.resources (recorded outcome)).length) := by
  intro exchange outcome rounds
  have distinct : (Graph.namesOf graph.resources).Nodup := (Graph.valid_of_build built).distinct
  have ends : Ends seeds bindings graph.resources Registry.empty rounds outcome :=
    ends_provision graph seeds bindings backend state
  refine ⟨ends.descend distinct, ?_⟩
  cases finished : outcome with
  | ok final =>
      rw [finished] at ends
      have sameLength := (Walked.registeredFor ends distinct fun _ member => member).length_eq
      exact ⟨False.elim, fun _ => sameLength⟩
  | error aborted =>
      rw [finished] at ends
      rcases ends with ⟨before, descriptor, after, stopped⟩
      rcases stopped.registrations_length distinct with ⟨atOwner, more⟩ | ⟨notAtOwner, same⟩
      · exact ⟨fun _ => more, fun not => absurd atOwner not⟩
      · exact ⟨fun atOwner => absurd atOwner notAtOwner, fun _ => same⟩

/-- A resource that reuses the code of `twin`, which is not its own either. -/
def heir : Descriptor :=
  .ofReuse "heir" "twin" "Heir" .null

def spire : Descriptor :=
  .ofUpload "spire" "spire.wasm" "Spire" .null

/-- A backend that does not instantiate spires. -/
def spireless : Backend Unit :=
  Backend.ofAnswers fun
    | .registerArtifact _ => .ok 7
    | .instantiate _ _ _ "Spire" => .error .unreadable
    | .instantiate _ _ _ label => .ok label
    | _ => .error .unreadable

theorem created_descend_of_failing_spire :
    let resources := [vault, twin, heir, spire]
    let bindings : Variables := [("owner", "sei1owner")]
    let exchange := provision ⟨resources⟩ Seeds.empty bindings
    let outcome := (exchange.play spireless ()).value
    let rounds := exchange.rounds spireless ()
    Graph.build [heir, twin, vault, spire] = .ok ⟨resources⟩ ∧
      contractsOf rounds =
        [⟨"Vault", 7, "Vault"⟩, ⟨"Twin", 7, "Twin"⟩, ⟨"Heir", 7, "Heir"⟩] ∧
      List.Forall₂
        (fun contract entry => MadeFor resources contract entry ∧
          ∃ origin, Descends resources Seeds.empty (recorded outcome) entry.name origin
            contract.codeId)
        (contractsOf rounds) (recorded outcome).created ∧
      StopsAtOwner resources Seeds.empty outcome ∧
      (registrations rounds).length = (createdOwners resources (recorded outcome)).length + 1 := by
  intro resources bindings exchange outcome rounds
  have built : Graph.build [heir, twin, vault, spire] = .ok ⟨resources⟩ := rfl
  have descend := created_descend built Seeds.empty bindings spireless ()
  have stops : StopsAtOwner resources Seeds.empty outcome :=
    ⟨spire, by decide, rfl, rfl, .unreadable, rfl⟩
  exact ⟨built, rfl, descend.1, stops, descend.2.1 stops⟩

end Provision

end Rollout
