import Rollout.Proofs.Template.Grammar
import Rollout.Proofs.Template.Obstruction

/-!
Contract: the resolved form of a text, piece by piece.

Owns:
- what a piece is filled with, and the resolved form of a text as that of its pieces in
  order;
- the pieces of two texts that are joined, where no slot is opened between them;
- that these resolve one after the other, and that what fills a slot is not read again.

Does not own: strings of values that stand for a number.
-/

namespace Rollout

/-! ## Joined texts -/

namespace Template

/-- Between two texts a slot is opened that is in neither of them. -/
def OpensBetween (left right : String) : Prop :=
  ['$'] <:+ left.toList ∧ ['{'] <+: right.toList

/-- The pieces of two texts that are joined. Where two literals meet, they are one. -/
def joined : List Piece → List Piece → List Piece
  | [], right => right
  | [.literal first], .literal second :: rest => .literal (first ++ second) :: rest
  | piece :: rest, right => piece :: joined rest right

variable {left right : List Piece}

private theorem written_joined (left right : List Piece) :
    written (joined left right) = written left ++ written right := by
  induction left, right using joined.induct with
  | case1 right => simp [joined, written]
  | case2 first second rest => simp [joined, written, Piece.text, String.append_assoc]
  | case3 piece rest right notBoth inductionHypothesis =>
      rw [joined.eq_3 _ _ _ notBoth]
      simp only [written, List.map_cons, String.join_cons] at inductionHypothesis ⊢
      rw [inductionHypothesis, String.append_assoc]

/-- A slot is opened in joined texts if one of them opens it, or if it is opened between
them. -/
theorem opensSlot_append_iff {first second : List Char} :
    opensSlot (first ++ second) = true ↔
      opensSlot first = true ∨ opensSlot second = true ∨
        (['$'] <:+ first ∧ ['{'] <+: second) := by
  simp only [opensSlot_iff]
  rw [List.infix_append_iff]
  constructor
  · rintro (inFirst | inSecond | ⟨ending, beginning, split, ends, begins⟩)
    · exact .inl inFirst
    · exact .inr (.inl inSecond)
    · rcases List.cons_eq_append_iff.mp split with ⟨rfl, rfl⟩ | ⟨others, rfl, rest⟩
      · exact .inr (.inl begins.isInfix)
      · rcases List.cons_eq_append_iff.mp rest with ⟨rfl, rfl⟩ | ⟨more, rfl, nothing⟩
        · exact .inr (.inr ⟨ends, begins⟩)
        · obtain ⟨rfl, rfl⟩ := List.nil_eq_append_iff.mp nothing
          exact .inl ends.isInfix
  · rintro (inFirst | inSecond | ⟨ends, begins⟩)
    · exact .inl inFirst
    · exact .inr (.inl inSecond)
    · exact .inr (.inr ⟨_, _, rfl, ends, begins⟩)

/-- Two literals that meet are one, unless a slot is opened between them. -/
private theorem plain_literal_append
    {first second : String}
    (firstPlain : (Piece.literal first).Plain)
    (secondPlain : (Piece.literal second).Plain)
    (notBetween : ¬ OpensBetween first second) :
    (Piece.literal (first ++ second)).Plain := by
  cases firstPlain with
  | literal nonempty firstClosed =>
      cases secondPlain with
      | literal _ secondClosed =>
          apply Piece.Plain.literal
          · exact fun empty => nonempty (by simp_all)
          · rw [← opensSlot_iff] at firstClosed secondClosed ⊢
            rw [String.toList_append, opensSlot_append_iff]
            rintro (opens | opens | between)
            · exact firstClosed opens
            · exact secondClosed opens
            · exact notBetween between

/-- The first piece of joined texts is a literal if the first text begins with one. -/
private theorem isLiteral_head?_joined (piece : Piece) (rest right : List Piece) :
    (joined (piece :: rest) right).head?.map Piece.isLiteral = some piece.isLiteral := by
  unfold joined
  split
  · rename_i empty
    cases empty
  · rename_i same
    cases same
    rfl
  · rename_i same _
    cases same
    rfl

/-- Where no two literals meet, a piece stays apart from the joined texts behind it. -/
private theorem apart_head?_joined
    {piece next : Piece}
    {rest : List Piece}
    (canonical : Canonical (piece :: rest))
    (notBoth : ∀ first second others, right = .literal second :: others →
      piece = .literal first → rest = [] → False)
    (isNext : next ∈ (joined rest right).head?) :
    ¬ (piece.isLiteral ∧ next.isLiteral) := by
  rintro ⟨pieceLiteral, nextLiteral⟩
  cases rest with
  | nil =>
      obtain ⟨others, rfl⟩ := List.head?_eq_some_iff.mp isNext
      cases piece with
      | slot placeholder => cases pieceLiteral
      | literal first =>
          cases next with
          | slot placeholder => cases nextLiteral
          | literal second => exact notBoth first second others rfl rfl rfl
  | cons second others =>
      have sameKind := isLiteral_head?_joined second others right
      rw [Option.mem_def.mp isNext, Option.map_some, Option.some.injEq] at sameKind
      exact (List.isChain_cons_cons.mp canonical.apart).1
        ⟨pieceLiteral, sameKind ▸ nextLiteral⟩

/-- Canonical pieces of two texts are joined to canonical pieces, unless a slot is opened
between the texts. -/
private theorem canonical_joined
    (leftCanonical : Canonical left)
    (rightCanonical : Canonical right)
    (notBetween : ¬ OpensBetween (written left) (written right)) :
    Canonical (joined left right) := by
  induction left, right using joined.induct with
  | case1 right => exact rightCanonical
  | case2 first second rest =>
      have notBetweenLiterals : ¬ OpensBetween first second := by
        rintro ⟨ends, begins⟩
        refine notBetween ⟨by simpa [written, Piece.text] using ends, begins.trans ?_⟩
        rw [written_cons]
        exact List.prefix_append _ _
      have plain := plain_literal_append
        (leftCanonical.plain _ List.mem_cons_self) (rightCanonical.plain _ List.mem_cons_self)
        notBetweenLiterals
      constructor
      · exact List.forall_mem_cons.mpr ⟨plain, rightCanonical.tail.plain⟩
      · exact List.isChain_cons.mpr (List.isChain_cons.mp rightCanonical.apart)
  | case3 piece rest right notBoth inductionHypothesis =>
      have notBetweenRest : ¬ OpensBetween (written rest) (written right) := by
        rintro ⟨ends, begins⟩
        refine notBetween ⟨ends.trans ?_, begins⟩
        rw [written_cons]
        exact List.suffix_append _ _
      have canonical := inductionHypothesis leftCanonical.tail rightCanonical notBetweenRest
      rw [joined.eq_3 _ _ _ notBoth]
      constructor
      · exact List.forall_mem_cons.mpr
          ⟨leftCanonical.plain piece List.mem_cons_self, canonical.plain⟩
      · exact List.isChain_cons.mpr
          ⟨fun _ => apart_head?_joined leftCanonical notBoth, canonical.apart⟩

/-- The pieces of a joined text are those of its parts, unless a slot is opened between
them. -/
theorem pieces_append
    {first second : String}
    (readFirst : pieces first = .ok left)
    (readSecond : pieces second = .ok right)
    (notBetween : ¬ OpensBetween first second) :
    pieces (first ++ second) = .ok (joined left right) := by
  obtain ⟨leftCanonical, rfl⟩ := pieces_eq_ok_iff.mp readFirst
  obtain ⟨rightCanonical, rfl⟩ := pieces_eq_ok_iff.mp readSecond
  exact pieces_eq_ok_iff.mpr
    ⟨canonical_joined leftCanonical rightCanonical notBetween, written_joined left right⟩

end Template

/-! ## Filled pieces -/

namespace Scope

variable {scope : Scope} {text : String}

/-- What a piece is filled with: a literal stands for itself, and a slot for the text of its
placeholder. -/
def fill (scope : Scope) : Piece → Except ResolveFault String
  | .literal text => .ok text
  | .slot placeholder => scope.resolvePlaceholder placeholder

/-- Two results one after the other: their texts joined, or the first of their faults. -/
def both :
    Except ResolveFault String → Except ResolveFault String → Except ResolveFault String
  | .error fault, _ => .error fault
  | .ok _, .error fault => .error fault
  | .ok first, .ok second => .ok (first ++ second)

private theorem both_empty (result : Except ResolveFault String) :
    both (.ok "") result = result := by
  cases result <;> simp [both]

private theorem both_eq_ok_iff
    {first second : Except ResolveFault String}
    {resolved : String} :
    both first second = .ok resolved ↔
      ∃ beginning rest, first = .ok beginning ∧ second = .ok rest ∧
        resolved = beginning ++ rest := by
  cases first <;> cases second <;> simp [both, eq_comm]

private theorem both_assoc (first second third : Except ResolveFault String) :
    both (both first second) third = both first (both second third) := by
  cases first <;> cases second <;> cases third <;> simp [both, String.append_assoc]

private theorem resolvePieces_cons (piece : Piece) (rest : List Piece) :
    scope.resolvePieces (piece :: rest) = both (scope.fill piece) (scope.resolvePieces rest) := by
  cases piece with
  | literal text =>
      rw [resolvePieces, fill]
      cases scope.resolvePieces rest <;> rfl
  | slot placeholder =>
      rw [resolvePieces, fill]
      cases scope.resolvePlaceholder placeholder with
      | error fault => rfl
      | ok text => cases scope.resolvePieces rest <;> rfl

/-- Pieces resolve to what they are filled with, in order. -/
theorem resolvePieces_eq_ok_iff
    {pieces : List Piece}
    {resolved : String} :
    scope.resolvePieces pieces = .ok resolved ↔
      ∃ fillings, pieces.map scope.fill = fillings.map .ok ∧
        resolved = String.join fillings := by
  induction pieces generalizing resolved with
  | nil => simp [resolvePieces, eq_comm]
  | cons piece rest inductionHypothesis =>
      rw [resolvePieces_cons, both_eq_ok_iff]
      simp only [inductionHypothesis]
      constructor
      · rintro ⟨filling, _, filled, ⟨fillings, same, rfl⟩, rfl⟩
        exact ⟨filling :: fillings, by simp [filled, same], by simp⟩
      · rintro ⟨fillings, same, rfl⟩
        cases fillings with
        | nil => cases same
        | cons filling fillings =>
            obtain ⟨filled, others⟩ := List.cons.inj same
            exact ⟨filling, _, filled, ⟨fillings, others, rfl⟩, by simp⟩

/-- Joined pieces resolve one after the other, also where two literals are one. -/
private theorem resolvePieces_joined (left right : List Piece) :
    scope.resolvePieces (Template.joined left right) =
      both (scope.resolvePieces left) (scope.resolvePieces right) := by
  induction left, right using Template.joined.induct with
  | case1 right => exact (both_empty _).symm
  | case2 first second rest =>
      have single : scope.resolvePieces [.literal first] = .ok first := by
        simp [resolvePieces]
      rw [single, Template.joined, resolvePieces_cons, resolvePieces_cons, ← both_assoc]
      rfl
  | case3 piece rest right notBoth inductionHypothesis =>
      rw [Template.joined.eq_3 _ _ _ notBoth, resolvePieces_cons, resolvePieces_cons,
        inductionHypothesis, both_assoc]

/-! ## Texts -/

private theorem resolveText_of_pieces
    {found : List Piece}
    (read : Template.pieces text = .ok found) :
    scope.resolveText text = scope.resolvePieces found := by
  simp only [resolveText, read]

private theorem resolveText_eq_ok_iff {resolved : String} :
    scope.resolveText text = .ok resolved ↔
      ∃ found fillings, Template.pieces text = .ok found ∧
        found.map scope.fill = fillings.map .ok ∧ resolved = String.join fillings := by
  cases read : Template.pieces text with
  | error fault => simp [resolveText, read]
  | ok found =>
      rw [resolveText_of_pieces read, resolvePieces_eq_ok_iff]
      simp

/-- A text without a slot is a literal as a whole, or empty. -/
private theorem resolveText_closed (closed : ¬ ['$', '{'] <:+: text.toList) :
    scope.resolveText text = .ok text := by
  rw [← Template.opensSlot_iff, Bool.not_eq_true] at closed
  have read : Template.pieces text = .ok (Piece.ofCollected text.toList.reverse) := by
    rw [Template.pieces, Template.piecesAfterLiteral_closed closed, List.append_nil]
  rw [resolveText_of_pieces read, Template.ofCollected_reverse]
  split_ifs with none
  · rw [String.toList_eq_nil_iff] at none
    rw [none, resolvePieces]
  · simp [resolvePieces]

private theorem resolveText_eq_unresolved_iff {placeholder : Placeholder} :
    scope.resolveText text = .error (.unresolved placeholder) ↔
      ∃ found, Template.pieces text = .ok found ∧
        IsFirst (fun slot => scope.lookup? slot = none)
          (found.filterMap Piece.placeholder?) placeholder := by
  cases read : Template.pieces text with
  | error fault => simp [resolveText, read]
  | ok found =>
      rw [resolveText_of_pieces read, resolvePieces_eq_error_iff]
      simp

/-- Interpolation is one pass over the text. The whole text is read before anything is
looked up, so a malformed text is refused as such. Otherwise its literals and what fills its
slots are put one after the other, whatever characters the fillings have, and the leftmost
slot that stands for nothing is the fault. Texts that are joined without opening a slot
between them resolve one after the other. -/
theorem resolveText_fills
    (scope : Scope)
    (text : String) :
    (∀ resolved, scope.resolveText text = .ok resolved ↔
        ∃ found fillings, Template.pieces text = .ok found ∧
          found.map scope.fill = fillings.map .ok ∧ resolved = String.join fillings) ∧
      (¬ ['$', '{'] <:+: text.toList → scope.resolveText text = .ok text) ∧
      (∀ fault, scope.resolveText text = .error (.malformed fault) ↔
        Template.pieces text = .error fault) ∧
      (∀ placeholder, scope.resolveText text = .error (.unresolved placeholder) ↔
        ∃ found, Template.pieces text = .ok found ∧
          IsFirst (fun slot => scope.lookup? slot = none)
            (found.filterMap Piece.placeholder?) placeholder) ∧
      ∀ other, Template.WellFormed text → Template.WellFormed other →
        ¬ Template.OpensBetween text other →
        scope.resolveText (text ++ other) =
          both (scope.resolveText text) (scope.resolveText other) := by
  refine ⟨fun resolved => resolveText_eq_ok_iff, resolveText_closed, ?malformed,
    fun placeholder => resolveText_eq_unresolved_iff, ?joined⟩
  case malformed =>
    intro fault
    cases read : Template.pieces text with
    | error other => simp [resolveText, read]
    | ok found =>
        rw [resolveText_of_pieces read, resolvePieces_eq_error_iff]
        simp
  case joined =>
    rintro other ⟨left, readText⟩ ⟨right, readOther⟩ notBetween
    rw [resolveText_of_pieces (Template.pieces_append readText readOther notBetween),
      resolveText_of_pieces readText, resolveText_of_pieces readOther, resolvePieces_joined]

/-- What fills a slot is not read again, although it looks like a slot. -/
example :
    (Scope.mk ⟨[]⟩ [("a", "$\x7bvar:b\x7d"), ("b", "unused")]).resolveText "<$\x7bvar:a\x7d>" =
      .ok "<$\x7bvar:b\x7d>" := by
  decide +kernel

end Scope

end Rollout
