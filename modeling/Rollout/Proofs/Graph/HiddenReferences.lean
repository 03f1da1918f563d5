import Rollout.Proofs.Graph.Validation
import Rollout.Proofs.Template.Openings

/-!
Contract: references as they are written in the texts of a graph.

Owns:
- that a resource stands after those that its texts refer to outside of every slot;
- where any other reference is hidden: at the end of a slot for a variable, or of one for
  a resource whose name has an opening in it;
- that a text with an opening which nothing closes is in no graph.

Does not own: the openings of one text.
-/

namespace Rollout

namespace Placeholder

variable {placeholder other : Placeholder} {name longer : String} {first : List Char}

/-- A reference is the name of the resource and a field, with the last point between
them. -/
private theorem exists_field_of_resource? (refers : placeholder.resource? = some name) :
    ∃ field, placeholder.inside.toList = name.toList ++ '.' :: field ∧ '.' ∉ field := by
  cases placeholder with
  | address resource =>
      cases refers
      exact ⟨_, inside_address name, by decide⟩
  | codeId resource =>
      cases refers
      exact ⟨_, inside_codeId name, by decide⟩
  | var key => cases refers

/-- If the inside of a reference ends with that of another one, then so does the name. -/
private theorem name_ending
    (refers : placeholder.resource? = some name)
    (otherRefers : other.resource? = some longer)
    (ending : other.inside.toList = first ++ placeholder.inside.toList) :
    longer.toList = first ++ name.toList := by
  obtain ⟨field, split, noPoint⟩ := exists_field_of_resource? refers
  obtain ⟨otherField, otherSplit, otherNoPoint⟩ := exists_field_of_resource? otherRefers
  rw [split, otherSplit, ← List.append_assoc] at ending
  have lastPoint : splitLastPoint? (longer.toList ++ '.' :: otherField) =
      some (longer.toList, otherField) := splitLastPoint?_append otherNoPoint
  rw [ending, splitLastPoint?_append noPoint, Option.some.injEq, Prod.mk.injEq] at lastPoint
  exact lastPoint.1.symm

end Placeholder

namespace Graph

variable {descriptors earlier later : List Descriptor} {descriptor : Descriptor}
  {graph : Graph} {text : String} {before : List Char} {reference : Placeholder}
  {name : String}

/-- A reference to a resource that is written in a text behind the characters `before`.
Alone it would be read. -/
structure WrittenAt
    (text : String)
    (before : List Char)
    (reference : Placeholder)
    (name : String) :
    Prop where
  plain : (Piece.slot reference).Plain
  refers : reference.resource? = some name
  written : ∃ rest, text.toList = before ++ (reference.text.toList ++ rest)

/-- A reference that is part of another slot of a text. If that slot refers to a resource,
then to one of those given, with an opening and the name of the reference at the end of
its own name. -/
def HiddenIn
    (text : String)
    (reference : Placeholder)
    (name : String)
    (given : List String) :
    Prop :=
  ∃ other ∈ Template.slots text,
    (∃ first, other.inside.toList = first ++ '$' :: '{' :: reference.inside.toList) ∧
    ∀ longer, other.resource? = some longer →
      longer ∈ given ∧ ∃ first, longer.toList = first ++ '$' :: '{' :: name.toList

/-- The resources in the slots of a text stand before the one whose text it is. -/
theorem mem_names_of_slot
    (built : build descriptors = .ok graph)
    (placed : graph.resources = earlier ++ descriptor :: later)
    (inTexts : text ∈ descriptor.texts)
    (inSlots : reference ∈ Template.slots text)
    (refers : reference.resource? = some name) :
    name ∈ namesOf earlier := by
  have slot := Descriptor.mem_slots_of_text inTexts inSlots
  have named := Descriptor.mem_references_of_slot slot refers
  exact (valid_of_build built).inOrder earlier descriptor later placed name named

private theorem wellFormed_of_placed
    (built : build descriptors = .ok graph)
    (placed : graph.resources = earlier ++ descriptor :: later)
    (inTexts : text ∈ descriptor.texts) :
    Template.WellFormed text := by
  have member : descriptor ∈ graph.resources := by
    rw [placed]
    exact List.mem_append_right earlier List.mem_cons_self
  exact (valid_of_build built).wellFormed descriptor member text inTexts

/-- A resource stands after those that its texts refer to outside of every slot. -/
theorem mem_names_of_outside
    (built : build descriptors = .ok graph)
    (placed : graph.resources = earlier ++ descriptor :: later)
    (inTexts : text ∈ descriptor.texts)
    (writtenAt : WrittenAt text before reference name)
    (outside : ¬ Template.EndsInSlot before) :
    name ∈ namesOf earlier := by
  obtain ⟨found, read⟩ := wellFormed_of_placed built placed inTexts
  obtain ⟨canonical, rfl⟩ := Template.pieces_eq_ok_iff.mp read
  obtain ⟨rest, writes⟩ := writtenAt.written
  refine mem_names_of_slot built placed inTexts ?_ writtenAt.refers
  rw [Template.slots_of_pieces read]
  exact canonical.mem_of_outside writtenAt.plain writes outside

private theorem hiddenIn_of_inSlot
    (built : build descriptors = .ok graph)
    (placed : graph.resources = earlier ++ descriptor :: later)
    (inTexts : text ∈ descriptor.texts)
    (writtenAt : WrittenAt text before reference name)
    (inSlot : Template.EndsInSlot before) :
    HiddenIn text reference name (namesOf earlier) := by
  obtain ⟨found, read⟩ := wellFormed_of_placed built placed inTexts
  obtain ⟨canonical, rfl⟩ := Template.pieces_eq_ok_iff.mp read
  obtain ⟨rest, writes⟩ := writtenAt.written
  obtain ⟨other, member, first, ending⟩ :=
    canonical.exists_ending_of_inSlot writtenAt.plain writes inSlot
  rw [← Template.slots_of_pieces read] at member
  refine ⟨other, member, ⟨first, ending⟩, fun longer otherRefers => ?_⟩
  have endingTogether :
      other.inside.toList = (first ++ ['$', '{']) ++ reference.inside.toList := by
    simpa using ending
  have nameEnding := Placeholder.name_ending writtenAt.refers otherRefers endingTogether
  exact ⟨mem_names_of_slot built placed inTexts member otherRefers, first,
    by simpa using nameEnding⟩

/-- A text with an opening that nothing closes is in no graph. -/
theorem not_built_of_unclosed
    {after : List Char}
    (among : descriptor ∈ descriptors)
    (inTexts : text ∈ descriptor.texts)
    (opens : text.toList = before ++ '$' :: '{' :: after)
    (unclosed : '}' ∉ after) :
    ∃ fault, build descriptors = .error fault := by
  cases built : build descriptors with
  | error fault => exact ⟨fault, rfl⟩
  | ok graph =>
      have member : descriptor ∈ graph.resources := (resources_perm built).mem_iff.mpr among
      obtain ⟨found, read⟩ := (valid_of_build built).wellFormed descriptor member text inTexts
      obtain ⟨canonical, rfl⟩ := Template.pieces_eq_ok_iff.mp read
      exact absurd (canonical.brace_behind_opening opens) unclosed

/-- What becomes of the openings of slots. In a text whose placeholders can be listed,
the openings outside of every slot are those of the placeholders, one for each and in
order; any other opening is hidden in the inside of a slot, so that there are as many
placeholders as openings exactly if no slot is opened inside another one. All texts of a
graph are of this kind, and none has an opening that nothing closes. A resource stands
after those that its texts refer to outside of every slot, while a reference inside of a
slot is the end of that slot: one for a variable, or one for a resource that stands
before and whose name has an opening in it. -/
theorem openings_read_or_hidden (text : String) (descriptors : List Descriptor) :
    (∀ placeholders, Template.placeholdersOfText text = .ok placeholders →
      ∃ slots, slots.map Prod.snd = placeholders ∧
        Template.OpeningsRead text.toList slots) ∧
      (∀ graph, build descriptors = .ok graph →
        ∀ earlier descriptor later, graph.resources = earlier ++ descriptor :: later →
          text ∈ descriptor.texts →
            (∃ placeholders, Template.placeholdersOfText text = .ok placeholders) ∧
            ∀ before reference name, WrittenAt text before reference name →
              (¬ Template.EndsInSlot before → name ∈ namesOf earlier) ∧
              (Template.EndsInSlot before →
                HiddenIn text reference name (namesOf earlier))) ∧
      (∀ descriptor ∈ descriptors, text ∈ descriptor.texts →
        ∀ before after, text.toList = before ++ '$' :: '{' :: after → '}' ∉ after →
          ∃ fault, build descriptors = .error fault) := by
  refine ⟨fun placeholders => Template.openingsRead_of_accepted, ?_, ?_⟩
  · intro graph built earlier descriptor later placed inTexts
    have wellFormed := wellFormed_of_placed built placed inTexts
    refine ⟨⟨_, Template.placeholdersOfText_of_wellFormed wellFormed⟩, ?_⟩
    intro before reference name writtenAt
    exact ⟨mem_names_of_outside built placed inTexts writtenAt,
      hiddenIn_of_inSlot built placed inTexts writtenAt⟩
  · intro descriptor among inTexts before after
    exact not_built_of_unclosed among inTexts

/-- An opening that is not closed before the next one is accepted. The reference behind it
is then part of the key of a variable, and the resource that it names may come later. -/
theorem unclosed_opening_accepted :
    Template.placeholdersOfText "$\x7bvar:deployer $\x7bpool.address\x7d" =
        .ok [.var "deployer $\x7bpool.address"] ∧
      Template.openings "$\x7bvar:deployer $\x7bpool.address\x7d".toList = 2 ∧
      Template.EndsInSlot "$\x7bvar:deployer ".toList ∧
      WrittenAt "$\x7bvar:deployer $\x7bpool.address\x7d" "$\x7bvar:deployer ".toList
        (.address "pool") "pool" ∧
      (let vault := Descriptor.ofUpload "vault" "vault.wasm" "vault"
        (.object [("owner", .string "$\x7bvar:deployer $\x7bpool.address\x7d")])
      let pool := Descriptor.ofUpload "pool" "pool.wasm" "pool" (.object [])
      build [vault, pool] = .ok ⟨[vault, pool]⟩) := by
  refine ⟨by decide +kernel, by decide +kernel, ⟨[], "var:deployer ".toList, rfl, by decide⟩,
    ⟨.slot ⟨by decide, ?_⟩ (by decide), rfl, [], rfl⟩, by decide +kernel⟩
  rintro _ ⟨⟩
  decide

end Graph

end Rollout
