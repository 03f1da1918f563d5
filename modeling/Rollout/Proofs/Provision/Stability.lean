import Rollout.Proofs.Provision.Settlement
import Rollout.Proofs.Template.Filling

/-!
Contract: what a provisioning sent, read against what it has on record in the end.

Owns:
- that a text or a value that was resolved keeps its resolved form when more is recorded;
- the turns of a provisioning: the calls of each resource, and what was on record when they
  were made;
- that each resource comes to the same in its turn and with the final record, so that every
  instantiation has the message and the coins that its resource has in the end.

Does not own: what is sent by a later run.
-/

namespace Rollout

/-! ## Growing records -/

namespace Scope

variable {registry larger : Registry} {bindings : Variables} {placeholder : Placeholder}
  {texts : List String}

/-- What is known of a placeholder stays the same when more is recorded. -/
theorem agreeOn_of_knows
    (begins : registry.entries <+: larger.entries)
    (knows : (Scope.mk registry bindings).Knows placeholder) :
    (Scope.mk registry bindings).AgreeOn ⟨larger, bindings⟩ placeholder := by
  cases placeholder with
  | var key => rfl
  | address resource =>
      rcases knows with ⟨entry, found⟩
      simp only [AgreeOn, Registry.address?, found, Registry.find?_of_prefix begins found]
  | codeId resource =>
      rcases knows with ⟨entry, codeId, found, _⟩
      simp only [AgreeOn, Registry.codeId?, found, Registry.find?_of_prefix begins found]

private theorem agreeOnSlots_of_not_obstructed
    (begins : registry.entries <+: larger.entries)
    (clear : ∀ text ∈ texts, ¬ (Scope.mk registry bindings).Obstructed text) :
    (Scope.mk registry bindings).AgreeOnSlots ⟨larger, bindings⟩ texts := by
  intro text inTexts placeholder inText
  have known := (not_obstructed_iff.mp (clear text inTexts)).2 placeholder inText
  exact agreeOn_of_knows begins known

private theorem resolve_of_prefix
    {value resolved : Json}
    (begins : registry.entries <+: larger.entries)
    (resolves : (Scope.mk registry bindings).resolve value = .ok resolved) :
    (Scope.mk larger bindings).resolve value = .ok resolved := by
  have clear := (exists_resolve_eq_ok_iff_not_obstructed value).mp ⟨resolved, resolves⟩
  rw [← resolve_congr value (agreeOnSlots_of_not_obstructed begins clear)]
  exact resolves

private theorem resolveText_of_prefix
    {text resolved : String}
    (begins : registry.entries <+: larger.entries)
    (resolves : (Scope.mk registry bindings).resolveText text = .ok resolved) :
    (Scope.mk larger bindings).resolveText text = .ok resolved := by
  have clear := exists_resolveText_eq_ok_iff_not_obstructed.mp ⟨resolved, resolves⟩
  have agree := agreeOnSlots_of_not_obstructed begins (List.forall_mem_singleton.mpr clear)
  rw [← resolveText_congr (agree text (List.mem_singleton_self text))]
  exact resolves

end Scope

namespace Provision

variable {seeds : Seeds} {scope : Scope} {bindings : Variables} {descriptor : Descriptor}
  {registry : Registry} {rounds : List CallRound}

/-! ## Instantiations -/

/-- A call instantiates a resource, with its label, and with its message and its coins as
they resolve. -/
inductive Instantiates (scope : Scope) (descriptor : Descriptor) : Call → Prop where
  | intro {codeId : CodeId} {payload : Json} {funds : List Coin}
      (message : scope.resolve descriptor.template = .ok payload)
      (coins : Funded scope descriptor funds) :
      Instantiates scope descriptor (.instantiate codeId payload funds descriptor.label)

private theorem instantiates_instantiation
    {preparation : Preparation}
    {codeId : CodeId}
    {answer : Except BackendFault String}
    (prepared : prepare scope descriptor = .ok preparation) :
    Instantiates scope descriptor
      (instantiation descriptor preparation codeId answer).question := by
  rcases resolved_of_prepare prepared with ⟨message, coins⟩
  exact .intro message coins

/-- No code is obtained by an instantiation. -/
private theorem Coded.operation_ne
    {codeId : CodeId}
    (coded : Coded scope descriptor rounds codeId) :
    ∀ round ∈ rounds, round.question.operation ≠ .instantiate := by
  cases coded with
  | uploaded own => simp [registration, Call.operation]
  | borrowed reuses known => simp

/-- Once its code is obtained, a resource is instantiated as it was prepared. -/
private theorem Coded.instantiates
    {preparation : Preparation}
    {codeId : CodeId}
    {answer : Except BackendFault String}
    (coded : Coded scope descriptor rounds codeId)
    (prepared : prepare scope descriptor = .ok preparation) :
    ∀ round ∈ rounds ++ [instantiation descriptor preparation codeId answer],
      round.question.operation = .instantiate →
        Instantiates scope descriptor round.question := by
  intro round member isInstantiation
  rcases List.mem_append.mp member with ofCode | isLast
  · exact absurd isInstantiation (coded.operation_ne round ofCode)
  · rw [List.mem_singleton.mp isLast]
    exact instantiates_instantiation prepared

private theorem Settles.instantiates
    {outcome : Except ProvisionFault Entry}
    (settles : Settles seeds scope descriptor rounds outcome) :
    ∀ round ∈ rounds, round.question.operation = .instantiate →
      Instantiates scope descriptor round.question := by
  cases outcome with
  | ok entry =>
      cases settles with
      | seeded known => simp
      | created unseeded prepared coded => exact coded.instantiates prepared
  | error fault =>
      cases settles with
      | uninstantiated unseeded prepared coded => exact coded.instantiates prepared
      | unregistered unseeded prepared own => simp [registration, Call.operation]
      | _ => simp

/-! ## Turns -/

/-- The calls of a resource in its turn, when the first entries of the final registry were
on record: those of everything that the resource names among them. -/
structure Turn
    (seeds : Seeds)
    (bindings : Variables)
    (earlier final : Registry)
    (descriptor : Descriptor)
    (part : List CallRound) :
    Prop where
  agree : earlier.AgreeOn final descriptor.references
  path : ∃ outcome, Dialogue.Path (resource seeds ⟨earlier, bindings⟩ descriptor) part outcome

/-- With the final record a resource would have been provisioned as in its turn. -/
theorem Turn.exists_settles
    {earlier final : Registry}
    {part : List CallRound}
    (turn : Turn seeds bindings earlier final descriptor part) :
    ∃ outcome, Settles seeds ⟨earlier, bindings⟩ descriptor part outcome ∧
      Settles seeds ⟨final, bindings⟩ descriptor part outcome := by
  rcases turn.path with ⟨outcome, path⟩
  have sameCourse : resource seeds ⟨earlier, bindings⟩ descriptor =
      resource seeds ⟨final, bindings⟩ descriptor := resource_congr rfl turn.agree
  exact ⟨outcome, settles_of_path path, settles_of_path (sameCourse ▸ path)⟩

/-- A walk gives every resource its turn, up to the one where it stops. -/
theorem exists_turns_of_path
    {before rest : List Descriptor}
    {outcome : Except Aborted Registry}
    (reached : Reached before rest registry)
    (path : Dialogue.Path (walk seeds bindings rest registry) rounds outcome) :
    registry.entries <+: (recorded outcome).entries ∧
      ∃ parts : List (List CallRound),
        rounds = parts.flatten ∧ parts.length ≤ rest.length ∧
          ∀ (place : Nat) (descriptor : Descriptor) (part : List CallRound),
            rest[place]? = some descriptor → parts[place]? = some part →
              Turn seeds bindings ⟨(recorded outcome).entries.take (registry.size + place)⟩
                (recorded outcome) descriptor part := by
  induction rest generalizing before registry rounds with
  | nil =>
      obtain ⟨rfl, rfl⟩ := Dialogue.path_done_iff.mp path
      exact ⟨List.prefix_refl _, [], rfl, le_rfl, nofun⟩
  | cons first rest inductionHypothesis =>
      rcases Dialogue.path_bind_iff.mp path with
        ⟨part, settled, later, rfl, ofResource, ofRest⟩
      -- What is on record in the turn of the first resource begins the final record.
      have turn_of_begins : registry.entries <+: (recorded outcome).entries →
          Turn seeds bindings ⟨(recorded outcome).entries.take registry.size⟩
            (recorded outcome) first part := by
        intro begins
        have atTurn : (recorded outcome).entries.take registry.size = registry.entries :=
          (List.prefix_iff_eq_take.mp begins).symm
        rw [atTurn]
        refine ⟨reached.agreeOn fun name => Registry.find?_eq_of_prefix begins, settled, ?_⟩
        exact ofResource
      cases settled with
      | error fault =>
          obtain ⟨rfl, rfl⟩ := Dialogue.path_done_iff.mp ofRest
          refine ⟨List.prefix_refl _, [part], by simp, by simp, ?_⟩
          intro place descriptor other isResource isPart
          cases place with
          | succ place => cases isPart
          | zero =>
              cases isResource
              cases isPart
              exact turn_of_begins (List.prefix_refl _)
      | ok entry =>
          have settles := settles_of_path ofResource
          rcases inductionHypothesis (reached.next (Live.name_eq settles)) ofRest with
            ⟨beginsLater, parts, rfl, fewParts, turns⟩
          have begins : registry.entries <+: (recorded outcome).entries :=
            (List.prefix_append registry.entries [entry]).trans beginsLater
          refine ⟨begins, part :: parts, rfl, Nat.succ_le_succ fewParts, ?_⟩
          intro place descriptor other isResource isPart
          cases place with
          | zero =>
              cases isResource
              cases isPart
              exact turn_of_begins begins
          | succ place =>
              have size : (registry.record entry).size + place = registry.size + (place + 1) := by
                simp only [Registry.size, Registry.record, List.length_append,
                  List.length_singleton]
                omega
              rw [← size]
              exact turns place descriptor other isResource isPart

/-! ## Provisionings -/

/-- However a provisioning ends, its calls come in parts, one for each resource in order.
The part of a resource is what it takes to provision it with what was on record in its
turn, and just the same with the final record; its preparation has one and the same result
with both. So every instantiation has the label of its resource, and the message and the
coins that the resource has by the final record. What could be resolved at any time has the
same resolved form in the end. -/
theorem sent_matches_record
    {σ : Type}
    {descriptors : List Descriptor}
    {graph : Graph}
    (built : Graph.build descriptors = .ok graph)
    (seeds : Seeds)
    (bindings : Variables)
    (backend : Backend σ)
    (state : σ) :
    let run := (provision graph seeds bindings).play backend state
    let rounds := (provision graph seeds bindings).rounds backend state
    let final := recorded run.value
    run.questions = rounds.map Dialogue.Round.question ∧
      (∃ parts : List (List CallRound),
        rounds = parts.flatten ∧ parts.length ≤ graph.resources.length ∧
          ∀ (place : Nat) (descriptor : Descriptor) (part : List CallRound),
            graph.resources[place]? = some descriptor → parts[place]? = some part →
              let earlier : Registry := ⟨final.entries.take place⟩
              prepare ⟨earlier, bindings⟩ descriptor = prepare ⟨final, bindings⟩ descriptor ∧
                (∃ outcome, Settles seeds ⟨earlier, bindings⟩ descriptor part outcome ∧
                  Settles seeds ⟨final, bindings⟩ descriptor part outcome) ∧
                ∀ round ∈ part, round.question.operation = .instantiate →
                  Instantiates ⟨final, bindings⟩ descriptor round.question) ∧
      ∀ earlier : Registry, earlier.entries <+: final.entries →
        (∀ value resolved, (Scope.mk earlier bindings).resolve value = .ok resolved →
          (Scope.mk final bindings).resolve value = .ok resolved) ∧
        ∀ text resolved, (Scope.mk earlier bindings).resolveText text = .ok resolved →
          (Scope.mk final bindings).resolveText text = .ok resolved := by
  intro run rounds final
  have path := Dialogue.path_rounds backend (provision graph seeds bindings) state
  have reached := Reached.start (Graph.valid_of_build built)
  rcases exists_turns_of_path reached path with ⟨_, parts, isFlat, fewParts, turns⟩
  refine ⟨(Dialogue.rounds_questions backend (provision graph seeds bindings) state).symm,
    ⟨parts, isFlat, fewParts, ?_⟩, ?_⟩
  · intro place descriptor part isResource isPart earlier
    have turn : Turn seeds bindings earlier final descriptor part := by
      have atPlace := turns place descriptor part isResource isPart
      rwa [show Registry.empty.size + place = place from Nat.zero_add place] at atPlace
    rcases turn.exists_settles with ⟨outcome, settlesThen, settles⟩
    exact ⟨prepare_congr (agreeOnSlots_of_references turn.agree agreeOnKeys_self),
      ⟨outcome, settlesThen, settles⟩, settles.instantiates⟩
  · intro earlier begins
    exact ⟨fun _ _ => Scope.resolve_of_prefix begins,
      fun _ _ => Scope.resolveText_of_prefix begins⟩

theorem sent_matches_record_of_failing_twin :
    let bindings : Variables := [("owner", "sei1owner")]
    let exchange := provision ⟨[vault, twin]⟩ Seeds.empty bindings
    let run := exchange.play vaultsOnly ()
    let rounds := exchange.rounds vaultsOnly ()
    let final : Registry := ⟨[.ofCreation "vault" 7 "sei1vault"]⟩
    Graph.build [twin, vault] = .ok ⟨[vault, twin]⟩ ∧
      recorded run.value = final ∧
      run.questions = [.registerArtifact "vault.wasm",
        .instantiate 7 (.string "sei1owner") [] "Vault",
        .instantiate 7 (.string "sei1vault") [] "Twin"] ∧
      (∃ parts : List (List CallRound), rounds = parts.flatten ∧ parts.length ≤ 2 ∧
        ∀ (place : Nat) (descriptor : Descriptor) (part : List CallRound),
          [vault, twin][place]? = some descriptor → parts[place]? = some part →
            let earlier : Registry := ⟨final.entries.take place⟩
            prepare ⟨earlier, bindings⟩ descriptor = prepare ⟨final, bindings⟩ descriptor ∧
              (∃ outcome, Settles Seeds.empty ⟨earlier, bindings⟩ descriptor part outcome ∧
                Settles Seeds.empty ⟨final, bindings⟩ descriptor part outcome) ∧
              ∀ round ∈ part, round.question.operation = .instantiate →
                Instantiates ⟨final, bindings⟩ descriptor round.question) ∧
      ∀ earlier : Registry, earlier.entries <+: final.entries →
        (∀ value resolved, (Scope.mk earlier bindings).resolve value = .ok resolved →
          (Scope.mk final bindings).resolve value = .ok resolved) ∧
        ∀ text resolved, (Scope.mk earlier bindings).resolveText text = .ok resolved →
          (Scope.mk final bindings).resolveText text = .ok resolved := by
  have built : Graph.build [twin, vault] = .ok ⟨[vault, twin]⟩ := rfl
  have matched := sent_matches_record built Seeds.empty [("owner", "sei1owner")] vaultsOnly ()
  exact ⟨built, rfl, rfl, matched.2⟩

end Provision

end Rollout
