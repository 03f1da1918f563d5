import Mathlib.Data.List.Infix
import Rollout.Proofs.Template.Grammar

/-!
Contract: the openings of slots in a text that is read, and the placeholders they give.

Owns:
- the number of openings in a text, and texts that end inside a slot;
- that an opening outside of every slot begins one slot, and that any other opening is
  part of the inside of a slot;
- the number of openings against the number of placeholders.

Does not own: what becomes of references that stand inside a slot.
-/

namespace Rollout.Template

variable {characters before after inside rest : List Char} {found left right : List Piece}
  {placeholder : Placeholder} {text : String}

/-! ## Openings -/

/-- The number of places where a slot is opened, whether or not it is read there. -/
def openings (characters : List Char) : Nat :=
  characters.tails.countP fun rest => ['$', '{'].isPrefixOf rest

/-- The text ends inside a slot: nothing closes the last slot that it opens. -/
def EndsInSlot (characters : List Char) : Prop :=
  ∃ before inside, characters = before ++ '$' :: '{' :: inside ∧ '}' ∉ inside

/-- Some slot is opened inside another one, which is not closed yet. -/
def Nested (characters : List Char) : Prop :=
  ∃ before after, characters = before ++ '$' :: '{' :: after ∧ EndsInSlot before

private theorem openings_nil : openings [] = 0 :=
  rfl

private theorem openings_cons (character : Char) (rest : List Char) :
    openings (character :: rest) =
      openings rest + if ['$', '{'] <+: character :: rest then 1 else 0 := by
  simp only [openings, List.tails_cons, List.countP_cons, List.isPrefixOf_iff_prefix]

private theorem openings_opening (rest : List Char) :
    openings ('$' :: '{' :: rest) = openings rest + 1 := by
  have notAtBrace : ¬ ['$', '{'] <+: '{' :: rest := by simp [List.cons_prefix_cons]
  have atDollar : ['$', '{'] <+: '$' :: '{' :: rest := List.prefix_append _ rest
  rw [openings_cons, openings_cons, if_pos atDollar, if_neg notAtBrace]

/-- No slot is opened between two texts if the second does not begin with a brace. -/
private theorem openings_append
    (first : List Char)
    {second : List Char}
    (apart : ¬ ['{'] <+: second) :
    openings (first ++ second) = openings first + openings second := by
  induction first with
  | nil => rw [List.nil_append, openings_nil, Nat.zero_add]
  | cons character others inductionHypothesis =>
      have sameHere : ['$', '{'] <+: character :: (others ++ second) ↔
          ['$', '{'] <+: character :: others := by
        cases others with
        | nil => simp [List.cons_prefix_cons, apart]
        | cons next others => simp [List.cons_prefix_cons]
      simp only [List.cons_append, openings_cons, inductionHypothesis, sameHere]
      omega

private theorem openings_eq_zero_iff : openings characters = 0 ↔ ¬ ['$', '{'] <:+: characters := by
  simp only [openings, List.countP_eq_zero, List.mem_tails, List.isPrefixOf_iff_prefix,
    List.infix_iff_prefix_suffix, not_exists, not_and]
  exact ⟨fun noTail tail opens within => noTail tail within opens,
    fun noPart tail within opens => noPart tail opens within⟩

/-! ## The text of canonical pieces -/

private theorem slot_text_append (placeholder : Placeholder) (rest : List Char) :
    placeholder.text.toList ++ rest =
      '$' :: '{' :: (placeholder.inside.toList ++ '}' :: rest) := by
  rw [Placeholder.text, slotText_toList]
  simp

private theorem Canonical.left_of_append (canonical : Canonical (left ++ right)) : Canonical left :=
  ⟨fun piece member => canonical.plain piece (List.mem_append_left right member),
    canonical.apart.left_of_append⟩

/-- What stands behind a literal does not begin with a brace, so that a dollar sign at the
end of the literal opens nothing. -/
private theorem Canonical.not_brace_behind
    {literal : String}
    (canonical : Canonical (.literal literal :: found)) :
    ¬ ['{'] <+: (written found).toList := by
  cases found with
  | nil => simp [written_nil]
  | cons next others =>
      cases next with
      | literal other =>
          have apart := (List.isChain_cons_cons.mp canonical.apart).1
          exact absurd ⟨rfl, rfl⟩ apart
      | slot placeholder =>
          rw [written_slot_cons]
          simp [List.cons_prefix_cons]

/-! ## Slots and what stands in front of them -/

def moveBehind
    (characters : List Char)
    (slots : List (List Char × Placeholder)) :
    List (List Char × Placeholder) :=
  slots.map fun (front, placeholder) => (characters ++ front, placeholder)

def slotsWithFront : List Piece → List (List Char × Placeholder)
  | [] => []
  | .literal literal :: rest => moveBehind literal.toList (slotsWithFront rest)
  | .slot placeholder :: rest =>
      ([], placeholder) :: moveBehind placeholder.text.toList (slotsWithFront rest)

/-- The opening behind the characters `before` is part of the inside of a slot. -/
def Hides
    (slot : List Char × Placeholder)
    (before : List Char) :
    Prop :=
  ∃ first others, before = slot.1 ++ '$' :: '{' :: first ∧
    slot.2.inside.toList = first ++ '$' :: '{' :: others

private theorem mem_moveBehind
    {slots : List (List Char × Placeholder)}
    {slot : List Char × Placeholder} :
    slot ∈ moveBehind characters slots ↔
      ∃ front, (front, slot.2) ∈ slots ∧ slot.1 = characters ++ front := by
  obtain ⟨before, placeholder⟩ := slot
  simp [moveBehind, eq_comm]

private theorem moveBehind_placeholders
    (characters : List Char)
    (slots : List (List Char × Placeholder)) :
    (moveBehind characters slots).map Prod.snd = slots.map Prod.snd := by
  simp [moveBehind, Function.comp_def]

private theorem moveBehind_ordered
    {slots : List (List Char × Placeholder)}
    (ordered : slots.Pairwise fun slot later => slot.1.length < later.1.length) :
    (moveBehind characters slots).Pairwise
      fun slot later => slot.1.length < later.1.length := by
  rw [moveBehind, List.pairwise_map]
  refine ordered.imp fun {slot later} shorter => ?_
  simpa using shorter

/-- The placeholders of the slots are those that are found in the pieces. -/
private theorem slotsWithFront_placeholders (found : List Piece) :
    (slotsWithFront found).map Prod.snd = found.filterMap Piece.placeholder? := by
  induction found with
  | nil => rfl
  | cons piece rest inductionHypothesis =>
      cases piece with
      | literal literal =>
          rw [slotsWithFront, moveBehind_placeholders, inductionHypothesis]
          rfl
      | slot placeholder =>
          rw [slotsWithFront, List.map_cons, moveBehind_placeholders, inductionHypothesis]
          rfl

/-- The slots stand one behind the other. -/
private theorem slotsWithFront_ordered (found : List Piece) :
    (slotsWithFront found).Pairwise fun slot later => slot.1.length < later.1.length := by
  induction found with
  | nil => exact .nil
  | cons piece rest inductionHypothesis =>
      cases piece with
      | literal literal => exact moveBehind_ordered inductionHypothesis
      | slot placeholder =>
          refine .cons ?_ (moveBehind_ordered inductionHypothesis)
          intro later moved
          obtain ⟨front, -, split⟩ := mem_moveBehind.mp moved
          simp [split, Placeholder.text, slotText_toList]

/-- Each slot stands behind the pieces in front of it. -/
private theorem exists_of_mem_slotsWithFront
    (member : (before, placeholder) ∈ slotsWithFront found) :
    ∃ left right, found = left ++ .slot placeholder :: right ∧
      (written left).toList = before := by
  induction found generalizing before with
  | nil => cases member
  | cons piece rest inductionHypothesis =>
      have behind : (before, placeholder) ∈ moveBehind piece.text.toList (slotsWithFront rest) →
          ∃ left right, piece :: rest = left ++ .slot placeholder :: right ∧
            (written left).toList = before := by
        intro moved
        obtain ⟨front, inRest, rfl⟩ := mem_moveBehind.mp moved
        obtain ⟨left, right, rfl, rfl⟩ := inductionHypothesis inRest
        exact ⟨piece :: left, right, rfl, written_cons piece left⟩
      cases piece with
      | literal literal => exact behind member
      | slot other =>
          rcases List.mem_cons.mp member with here | moved
          · cases here
            exact ⟨[], rest, rfl, rfl⟩
          · exact behind moved

private theorem text_of_mem_slotsWithFront
    (member : (before, placeholder) ∈ slotsWithFront found) :
    ∃ behind, (written found).toList =
      before ++ '$' :: '{' :: (placeholder.inside.toList ++ '}' :: behind) := by
  obtain ⟨left, right, rfl, rfl⟩ := exists_of_mem_slotsWithFront member
  refine ⟨(written right).toList, ?_⟩
  have joined : written (left ++ .slot placeholder :: right) =
      written left ++ written (.slot placeholder :: right) := by
    simp [written]
  rw [joined, String.toList_append, written_slot_cons]

/-! ## Openings and slots -/

/-- A literal has no opening in it, so an opening of the text stands behind it. -/
private theorem Canonical.opening_behind_literal
    {literal : String}
    (canonical : Canonical (.literal literal :: found))
    (opens : (written (.literal literal :: found)).toList = before ++ '$' :: '{' :: after) :
    ∃ later, before = literal.toList ++ later ∧
      (written found).toList = later ++ '$' :: '{' :: after := by
  rw [written_cons, Piece.text] at opens
  rcases List.append_eq_append_iff.mp opens with
    ⟨later, split, behind⟩ | ⟨ending, split, behind⟩
  · exact ⟨later, split, behind⟩
  · rcases ending with _ | ⟨dollar, _ | ⟨brace, others⟩⟩
    · exact ⟨[], by simpa using split.symm, by simpa using behind.symm⟩
    · -- The dollar sign ends the literal, and the brace begins what stands behind it.
      have brace : ['{'] <+: (written found).toList := ⟨after, (List.cons.inj behind).2⟩
      exact absurd brace canonical.not_brace_behind
    · simp only [List.cons_append, List.cons.injEq] at behind
      obtain ⟨rfl, rfl, -⟩ := behind
      have inLiteral : ['$', '{'] <:+: literal.toList := ⟨before, others, by simp [split]⟩
      rw [← opensSlot_iff, canonical.closed.2] at inLiteral
      cases inLiteral

/-- An opening of a text that begins with a slot is that of the slot, or is part of its
inside, or stands behind it. -/
private theorem opening_from_slot
    (opens : (written (.slot placeholder :: found)).toList = before ++ '$' :: '{' :: after) :
    before = [] ∨ Hides ([], placeholder) before ∨
      ∃ later, before = placeholder.text.toList ++ later ∧
        (written found).toList = later ++ '$' :: '{' :: after := by
  rw [written_slot_cons] at opens
  rcases before with _ | ⟨dollar, _ | ⟨brace, within⟩⟩
  · exact .inl rfl
  · simp at opens
  · simp only [List.cons_append, List.cons.injEq] at opens
    obtain ⟨rfl, rfl, opens⟩ := opens
    refine .inr ?_
    rcases List.append_eq_append_iff.mp opens with
      ⟨later, rfl, behind⟩ | ⟨ending, split, behind⟩
    · rcases later with _ | ⟨brace, later⟩
      · simp at behind
      · simp only [List.cons_append, List.cons.injEq] at behind
        obtain ⟨rfl, behind⟩ := behind
        exact .inr ⟨later, by simp [Placeholder.text, slotText], behind⟩
    · rcases ending with _ | ⟨dollar, _ | ⟨brace, others⟩⟩
      · simp at behind
      · simp at behind
      · simp only [List.cons_append, List.cons.injEq] at behind
        obtain ⟨rfl, rfl, -⟩ := behind
        exact .inl ⟨within, others, rfl, split⟩

/-- Every opening is that of a slot or is hidden in one. -/
theorem Canonical.opening_cases
    (canonical : Canonical found)
    (opens : (written found).toList = before ++ '$' :: '{' :: after) :
    ∃ slot ∈ slotsWithFront found, slot.1 = before ∨ Hides slot before := by
  induction found generalizing before with
  | nil => simp [written_nil] at opens
  | cons piece rest inductionHypothesis =>
      -- What is found in the rest is found behind the piece.
      have behind : ∀ {later}, before = piece.text.toList ++ later →
          (written rest).toList = later ++ '$' :: '{' :: after →
          ∃ slot ∈ moveBehind piece.text.toList (slotsWithFront rest),
            slot.1 = before ∨ Hides slot before := by
        rintro later rfl inRest
        obtain ⟨⟨front, placeholder⟩, member, place⟩ :=
          inductionHypothesis canonical.tail inRest
        refine ⟨(piece.text.toList ++ front, placeholder),
          mem_moveBehind.mpr ⟨front, member, rfl⟩, ?_⟩
        rcases place with rfl | ⟨first, others, rfl, split⟩
        · exact .inl rfl
        · exact .inr ⟨first, others, (List.append_assoc _ _ _).symm, split⟩
      cases piece with
      | literal literal =>
          obtain ⟨later, split, inRest⟩ := canonical.opening_behind_literal opens
          exact behind split inRest
      | slot placeholder =>
          rcases opening_from_slot opens with rfl | hidden | ⟨later, split, inRest⟩
          · exact ⟨_, List.mem_cons_self, .inl rfl⟩
          · exact ⟨_, List.mem_cons_self, .inr hidden⟩
          · obtain ⟨slot, member, place⟩ := behind split inRest
            exact ⟨slot, List.mem_cons_of_mem _ member, place⟩

private theorem read_of_plain (plain : (Piece.slot placeholder).Plain) :
    Placeholder.ofInside placeholder.inside.toList = .ok placeholder ∧
      '}' ∉ placeholder.inside.toList := by
  have alone : Canonical [.slot placeholder] := ⟨by simpa using plain, .singleton _⟩
  exact alone.slot

private theorem Canonical.plain_of_mem
    (canonical : Canonical found)
    (member : (before, placeholder) ∈ slotsWithFront found) :
    (Piece.slot placeholder).Plain := by
  obtain ⟨left, right, rfl, -⟩ := exists_of_mem_slotsWithFront member
  exact canonical.plain _ (by simp)

/-- A slot is closed behind every opening. -/
theorem Canonical.brace_behind_opening
    (canonical : Canonical found)
    (opens : (written found).toList = before ++ '$' :: '{' :: after) :
    '}' ∈ after := by
  obtain ⟨⟨front, placeholder⟩, member, place⟩ := canonical.opening_cases opens
  obtain ⟨behind, text⟩ := text_of_mem_slotsWithFront member
  rw [text] at opens
  rcases place with rfl | ⟨first, others, rfl, split⟩
  · have sameAfter : placeholder.inside.toList ++ '}' :: behind = after := by simpa using opens
    simp [← sameAfter]
  · have sameAfter : others ++ '}' :: behind = after := by simpa [split] using opens
    simp [← sameAfter]

/-- Pieces end outside of every slot. -/
private theorem Canonical.not_endsInSlot (canonical : Canonical found) :
    ¬ EndsInSlot (written found).toList := by
  rintro ⟨before, inside, opens, unclosed⟩
  exact unclosed (canonical.brace_behind_opening opens)

private theorem Canonical.not_endsInSlot_of_mem
    (canonical : Canonical found)
    (member : (before, placeholder) ∈ slotsWithFront found) :
    ¬ EndsInSlot before := by
  obtain ⟨left, right, rfl, rfl⟩ := exists_of_mem_slotsWithFront member
  exact canonical.left_of_append.not_endsInSlot

private theorem Canonical.endsInSlot_of_hides
    {slot : List Char × Placeholder}
    (canonical : Canonical found)
    (member : slot ∈ slotsWithFront found)
    (hidden : Hides slot before) :
    EndsInSlot before := by
  obtain ⟨first, others, rfl, split⟩ := hidden
  refine ⟨slot.1, first, rfl, fun brace => (read_of_plain (canonical.plain_of_mem member)).2 ?_⟩
  rw [split]
  exact List.mem_append_left _ brace

/-- Slots begin exactly at the openings that stand outside of every slot. -/
theorem Canonical.mem_fronts_iff (canonical : Canonical found) :
    before ∈ (slotsWithFront found).map Prod.fst ↔
      (∃ after, (written found).toList = before ++ '$' :: '{' :: after) ∧
        ¬ EndsInSlot before := by
  constructor
  · intro front
    obtain ⟨slot, member, rfl⟩ := List.mem_map.mp front
    obtain ⟨behind, text⟩ := text_of_mem_slotsWithFront member
    exact ⟨⟨_, text⟩, canonical.not_endsInSlot_of_mem member⟩
  · rintro ⟨⟨after, opens⟩, outside⟩
    obtain ⟨slot, member, begins | hidden⟩ := canonical.opening_cases opens
    · exact List.mem_map.mpr ⟨slot, member, begins⟩
    · exact absurd (canonical.endsInSlot_of_hides member hidden) outside

/-- An opening inside a slot is hidden in one. -/
theorem Canonical.exists_hides
    (canonical : Canonical found)
    (opens : (written found).toList = before ++ '$' :: '{' :: after)
    (inSlot : EndsInSlot before) :
    ∃ slot ∈ slotsWithFront found, Hides slot before := by
  obtain ⟨slot, member, rfl | hidden⟩ := canonical.opening_cases opens
  · exact absurd inSlot (canonical.not_endsInSlot_of_mem member)
  · exact ⟨slot, member, hidden⟩

/-! ## The number of openings -/

/-- The openings that are read as part of the insides of slots. -/
def hiddenOpenings : List Placeholder → Nat
  | [] => 0
  | placeholder :: rest => openings placeholder.inside.toList + hiddenOpenings rest

/-- Each slot is opened once, and its inside may have more openings. -/
theorem Canonical.openings_written (canonical : Canonical found) :
    openings (written found).toList =
      (found.filterMap Piece.placeholder?).length +
        hiddenOpenings (found.filterMap Piece.placeholder?) := by
  induction found with
  | nil => rfl
  | cons piece rest inductionHypothesis =>
      have others := inductionHypothesis canonical.tail
      cases piece with
      | literal literal =>
          have none : openings literal.toList = 0 := by
            rw [openings_eq_zero_iff, ← opensSlot_iff, canonical.closed.2]
            exact Bool.false_ne_true
          rw [written_cons, Piece.text, openings_append _ canonical.not_brace_behind, none,
            Nat.zero_add, others]
          rfl
      | slot placeholder =>
          have apart : ∀ behind : List Char, ¬ ['{'] <+: '}' :: behind := by
            simp [List.cons_prefix_cons]
          have noneAtBrace : ∀ behind : List Char, openings ('}' :: behind) = openings behind :=
            fun behind => by simp [openings_cons, List.cons_prefix_cons]
          have placeholders : (Piece.slot placeholder :: rest).filterMap Piece.placeholder? =
              placeholder :: rest.filterMap Piece.placeholder? := rfl
          rw [written_slot_cons, openings_opening, openings_append _ (apart _), noneAtBrace,
            others, placeholders]
          simp only [List.length_cons, hiddenOpenings]
          omega

private theorem hiddenOpenings_eq_zero_iff {placeholders : List Placeholder} :
    hiddenOpenings placeholders = 0 ↔
      ∀ placeholder ∈ placeholders, ¬ ['$', '{'] <:+: placeholder.inside.toList := by
  induction placeholders with
  | nil => simp [hiddenOpenings]
  | cons placeholder rest inductionHypothesis =>
      rw [hiddenOpenings, Nat.add_eq_zero_iff, openings_eq_zero_iff, inductionHypothesis,
        List.forall_mem_cons]

/-- Slots are nested exactly if the inside of a slot has an opening in it. -/
theorem Canonical.nested_iff (canonical : Canonical found) :
    Nested (written found).toList ↔
      hiddenOpenings (found.filterMap Piece.placeholder?) ≠ 0 := by
  rw [ne_eq, hiddenOpenings_eq_zero_iff, ← slotsWithFront_placeholders]
  constructor
  · rintro ⟨before, after, opens, inSlot⟩ noneHidden
    obtain ⟨slot, member, first, others, -, split⟩ := canonical.exists_hides opens inSlot
    refine noneHidden slot.2 (List.mem_map_of_mem member) ⟨first, others, ?_⟩
    simp [split]
  · intro someHidden
    push Not at someHidden
    obtain ⟨_, among, first, others, split⟩ := someHidden
    obtain ⟨⟨front, placeholder⟩, member, rfl⟩ := List.mem_map.mp among
    obtain ⟨behind, text⟩ := text_of_mem_slotsWithFront member
    have inside : placeholder.inside.toList = first ++ '$' :: '{' :: others := by
      simpa using split.symm
    refine ⟨front ++ '$' :: '{' :: first, others ++ '}' :: behind, ?_,
      canonical.endsInSlot_of_hides member ⟨first, others, rfl, inside⟩⟩
    simp [text, inside]

/-! ## Accepted texts -/

/-- The openings of a text against its slots, each of which comes with the characters in
front of it. -/
structure OpeningsRead
    (text : List Char)
    (slots : List (List Char × Placeholder)) :
    Prop where
  /-- Each slot is written where it begins. -/
  written : ∀ slot ∈ slots, ∃ rest, text = slot.1 ++ (slot.2.text.toList ++ rest)
  /-- The slots stand one behind the other. -/
  ordered : slots.Pairwise fun slot later => slot.1.length < later.1.length
  /-- Slots begin at the openings outside of every slot. -/
  begins : ∀ before, before ∈ slots.map Prod.fst ↔
    (∃ after, text = before ++ '$' :: '{' :: after) ∧ ¬ EndsInSlot before
  /-- Any other opening is part of the inside of a slot. -/
  hidden : ∀ before after, text = before ++ '$' :: '{' :: after → EndsInSlot before →
    ∃ slot ∈ slots, Hides slot before
  /-- Behind every opening a slot is closed. -/
  closed : ∀ before after, text = before ++ '$' :: '{' :: after → '}' ∈ after
  count : openings text = slots.length + hiddenOpenings (slots.map Prod.snd)
  /-- There is one slot for each opening exactly if none is opened inside another. -/
  complete : slots.length = openings text ↔ ¬ Nested text

private theorem Canonical.openingsRead (canonical : Canonical found) :
    OpeningsRead (written found).toList (slotsWithFront found) := by
  have count : openings (written found).toList = (slotsWithFront found).length +
      hiddenOpenings ((slotsWithFront found).map Prod.snd) := by
    rw [canonical.openings_written, ← slotsWithFront_placeholders, List.length_map]
  refine ⟨?_, slotsWithFront_ordered found, fun _ => canonical.mem_fronts_iff,
    fun _ _ => canonical.exists_hides, fun _ _ => canonical.brace_behind_opening, count, ?_⟩
  · intro slot member
    obtain ⟨behind, text⟩ := text_of_mem_slotsWithFront member
    exact ⟨behind, by rw [text, slot_text_append]⟩
  · rw [canonical.nested_iff, ← slotsWithFront_placeholders, count]
    omega

/-- The openings of an accepted text are read as its placeholders, or they are hidden. -/
theorem openingsRead_of_accepted
    {placeholders : List Placeholder}
    (accepted : placeholdersOfText text = .ok placeholders) :
    ∃ slots, slots.map Prod.snd = placeholders ∧ OpeningsRead text.toList slots := by
  obtain ⟨found, canonical, rfl, rfl⟩ :=
    ((pieces_inverse_written text).2.1 placeholders).mp accepted
  exact ⟨slotsWithFront found, slotsWithFront_placeholders found, canonical.openingsRead⟩

/-! ## Slots as they are written -/

/-- The inside of a slot ends at the first closing brace. -/
theorem inside_unique
    {other otherRest : List Char}
    (same : inside ++ '}' :: rest = other ++ '}' :: otherRest)
    (unclosed : '}' ∉ inside)
    (otherUnclosed : '}' ∉ other) :
    inside = other := by
  rcases List.append_eq_append_iff.mp same with ⟨more, rfl, behind⟩ | ⟨more, rfl, behind⟩
  · cases more with
    | nil => rw [List.append_nil]
    | cons first more =>
        obtain ⟨rfl, -⟩ := List.cons.inj behind
        exact absurd (by simp) otherUnclosed
  · cases more with
    | nil => rw [List.append_nil]
    | cons first more =>
        obtain ⟨rfl, -⟩ := List.cons.inj behind
        exact absurd (by simp) unclosed

/-- A slot that is written outside of every slot is read. -/
theorem Canonical.mem_of_outside
    (canonical : Canonical found)
    (plain : (Piece.slot placeholder).Plain)
    (writes : (written found).toList = before ++ (placeholder.text.toList ++ rest))
    (outside : ¬ EndsInSlot before) :
    placeholder ∈ found.filterMap Piece.placeholder? := by
  rw [slot_text_append] at writes
  have front := canonical.mem_fronts_iff.mpr ⟨⟨_, writes⟩, outside⟩
  obtain ⟨⟨_, other⟩, member, rfl⟩ := List.mem_map.mp front
  obtain ⟨behind, text⟩ := text_of_mem_slotsWithFront member
  rw [text, List.append_right_inj, List.cons_inj_right, List.cons_inj_right] at writes
  obtain ⟨read, unclosed⟩ := read_of_plain plain
  obtain ⟨otherRead, otherUnclosed⟩ := read_of_plain (canonical.plain_of_mem member)
  rw [inside_unique writes otherUnclosed unclosed, read] at otherRead
  obtain rfl := Except.ok.inj otherRead
  rw [← slotsWithFront_placeholders]
  exact List.mem_map_of_mem member

/-- A slot that is written inside another one is the end of the inside of that one. -/
theorem Canonical.exists_ending_of_inSlot
    (canonical : Canonical found)
    (plain : (Piece.slot placeholder).Plain)
    (writes : (written found).toList = before ++ (placeholder.text.toList ++ rest))
    (inSlot : EndsInSlot before) :
    ∃ other ∈ found.filterMap Piece.placeholder?,
      ∃ first, other.inside.toList = first ++ '$' :: '{' :: placeholder.inside.toList := by
  rw [slot_text_append] at writes
  obtain ⟨⟨front, other⟩, member, first, others, rfl, split⟩ :=
    canonical.exists_hides writes inSlot
  obtain ⟨behind, text⟩ := text_of_mem_slotsWithFront member
  have sameEnd : others ++ '}' :: behind = placeholder.inside.toList ++ '}' :: rest := by
    simpa [text, split] using writes
  have unclosed : '}' ∉ others := by
    have noBrace := (read_of_plain (canonical.plain_of_mem member)).2
    rw [split] at noBrace
    simp_all
  have sameInside := inside_unique sameEnd unclosed (read_of_plain plain).2
  refine ⟨other, ?_, first, by rw [split, sameInside]⟩
  rw [← slotsWithFront_placeholders]
  exact List.mem_map_of_mem member

end Rollout.Template
