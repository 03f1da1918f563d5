import Mathlib.Data.List.Basic
import Mathlib.Order.Basic
import Rollout.Seid

/-!
Contract: which attribute of a response is the first of its kind.

Owns:
- the places where an attribute can stand, and their order: the logs one after the other,
  and behind them the events of the response itself;
- that an attribute that is looked for is the one at the first place where one stands, so
  that parts that are missing or of another kind hide nothing behind them.

Does not own: what a response with this attribute means.
-/

namespace Rollout.Seid

variable {value response holder found other : Json} {name text type key : String}
  {event index place : Nat}

/-! ## Parts of values -/

/-- A value has an item at a place of a member that is an array. If the member is missing or
of another kind, there is no item at any place. -/
def HasItem (value : Json) (name : String) (place : Nat) (item : Json) : Prop :=
  ∃ items, value.member? name = some (.array items) ∧ items[place]? = some item

private theorem hasItem_iff :
    HasItem value name place found ↔ (itemsOf name value)[place]? = some found := by
  unfold HasItem itemsOf
  cases value.member? name with
  | none => simp
  | some member => cases member <;> simp [Json.items?]

private theorem hasText_iff :
    hasText name text value = true ↔ value.member? name = some (.string text) := by
  unfold hasText
  cases value.member? name with
  | none => simp
  | some member => cases member <;> simp [Json.text?]

/-! ## Places -/

/-- An attribute of a key stands among the events of a value: it is an attribute of an event
of a type. -/
def StandsIn (type key : String) (value : Json) (event index : Nat) (found : Json) : Prop :=
  ∃ holder, HasItem value "events" event holder ∧
    holder.member? "type" = some (.string type) ∧
    HasItem holder "attributes" index found ∧
    found.member? "key" = some (.string key)

/-- Where an attribute can stand in a response: in an event of a log, or in an event of the
response itself. -/
inductive Place where
  | logged (log event index : Nat)
  | flat (event index : Nat)
  deriving DecidableEq, Repr

/-- An attribute of a key stands at a place of a response, in an event of a type. -/
def StandsAt (type key : String) (response : Json) : Place → Json → Prop
  | .logged log event index, found =>
      ∃ entry, HasItem response "logs" log entry ∧ StandsIn type key entry event index found
  | .flat event index, found => StandsIn type key response event index found

/-- One place comes before another one. The logs come first, each with all of its events. -/
def Place.Before : Place → Place → Prop
  | .logged log event index, .logged log' event' index' =>
      log < log' ∨ log = log' ∧ (event < event' ∨ event = event' ∧ index < index')
  | .logged _ _ _, .flat _ _ => True
  | .flat _ _, .logged _ _ _ => False
  | .flat event index, .flat event' index' =>
      event < event' ∨ event = event' ∧ index < index'

/-- An attribute of a key stands at the first place of a response where one does. -/
structure FirstAt (type key : String) (response : Json) (place : Place) (found : Json) : Prop where
  stands : StandsAt type key response place found
  first : ∀ earlier other, earlier.Before place → ¬ StandsAt type key response earlier other

private theorem Place.before_trichotomy (left right : Place) :
    left.Before right ∨ left = right ∨ right.Before left := by
  cases left <;> cases right <;> simp only [Place.Before, Place.logged.injEq, Place.flat.injEq]
  all_goals grind

private theorem HasItem.unique
    (item : HasItem value name place found)
    (otherItem : HasItem value name place other) :
    found = other := by
  rw [hasItem_iff] at item otherItem
  exact Option.some.inj (item.symm.trans otherItem)

private theorem StandsIn.unique
    (stands : StandsIn type key value event index found)
    (otherStands : StandsIn type key value event index other) :
    found = other := by
  obtain ⟨holder, inEvents, _, inAttributes, _⟩ := stands
  obtain ⟨otherHolder, inEventsToo, _, inAttributesToo, _⟩ := otherStands
  obtain rfl := inEvents.unique inEventsToo
  exact inAttributes.unique inAttributesToo

private theorem StandsAt.unique
    {place : Place}
    (stands : StandsAt type key response place found)
    (otherStands : StandsAt type key response place other) :
    found = other := by
  cases place with
  | logged log event index =>
      obtain ⟨entry, inLogs, standsIn⟩ := stands
      obtain ⟨otherEntry, inLogsToo, otherStandsIn⟩ := otherStands
      obtain rfl := inLogs.unique inLogsToo
      exact standsIn.unique otherStandsIn
  | flat event index => exact StandsIn.unique stands otherStands

/-- There is at most one first place, and one attribute stands there. -/
theorem FirstAt.unique
    {place otherPlace : Place}
    (first : FirstAt type key response place found)
    (otherFirst : FirstAt type key response otherPlace other) :
    found = other := by
  rcases place.before_trichotomy otherPlace with before | rfl | after
  · exact absurd first.stands (otherFirst.first _ _ before)
  · exact first.stands.unique otherFirst.stands
  · exact absurd otherFirst.stands (first.first _ _ after)

/-! ## Searching -/

section

variable {α β : Type} {items : List α} {parts : α → List β} {holds : β → Bool} {item : β}

/-- What is found in parts that are put one after the other is found in the first part in
which there is something to find. -/
private theorem exists_place_of_find?_flatMap
    (isFound : (items.flatMap parts).find? holds = some item) :
    ∃ (place : Nat) (source : α), items[place]? = some source ∧
      (parts source).find? holds = some item ∧
      ∀ earlier < place, ∀ other, items[earlier]? = some other →
        (parts other).find? holds = none := by
  rw [List.find?_flatMap, List.findSome?_eq_some_iff] at isFound
  obtain ⟨before, source, later, rfl, inSource, notBefore⟩ := isFound
  refine ⟨before.length, source, by simp, inSource, ?_⟩
  intro earlier below other isOther
  rw [List.getElem?_append_left below] at isOther
  exact notBefore other (List.mem_of_getElem? isOther)

private theorem exists_place_of_find?
    {items : List β}
    (isFound : items.find? holds = some item) :
    ∃ place : Nat, items[place]? = some item ∧ holds item = true ∧
      ∀ earlier < place, ∀ other, items[earlier]? = some other → holds other = false := by
  obtain ⟨isHeld, before, later, rfl, notBefore⟩ := List.find?_eq_some_iff_append.mp isFound
  refine ⟨before.length, by simp, isHeld, ?_⟩
  intro earlier below other isOther
  rw [List.getElem?_append_left below] at isOther
  simpa using notBefore other (List.mem_of_getElem? isOther)

end

def attributesIn (type : String) (holder : Json) : List Json :=
  if hasText "type" type holder then itemsOf "attributes" holder else []

def attributesAmong (type : String) (value : Json) : List Json :=
  (itemsOf "events" value).flatMap (attributesIn type)

private theorem attributes_eq (type : String) (response : Json) :
    attributes type response =
      (itemsOf "logs" response).flatMap (attributesAmong type) ++
        attributesAmong type response := by
  have filtered : ∀ events : List Json,
      (events.filter (hasText "type" type)).flatMap (itemsOf "attributes") =
        events.flatMap (attributesIn type) := by
    intro events
    induction events with
    | nil => rfl
    | cons first rest inductionHypothesis =>
        rw [List.filter_cons, List.flatMap_cons, attributesIn, ← inductionHypothesis]
        split_ifs
        · rfl
        · rfl
  rw [attributes, filtered, events, List.flatMap_append, List.flatMap_assoc]
  rfl

private theorem standsIn_iff :
    StandsIn type key value event index found ↔
      ∃ holder, (itemsOf "events" value)[event]? = some holder ∧
        (attributesIn type holder)[index]? = some found ∧ hasText "key" key found = true := by
  unfold StandsIn attributesIn
  simp only [hasItem_iff, hasText_iff]
  constructor
  · rintro ⟨holder, inEvents, ofType, inAttributes, ofKey⟩
    exact ⟨holder, inEvents, by rw [if_pos ofType]; exact inAttributes, ofKey⟩
  · rintro ⟨holder, inEvents, inAttributes, ofKey⟩
    split_ifs at inAttributes with ofType
    · exact ⟨holder, inEvents, ofType, inAttributes, ofKey⟩
    · cases inAttributes

/-- If an attribute is found among the events of a value, it is the first one there. -/
private theorem exists_standsIn_of_find?
    (isFound : (attributesAmong type value).find? (hasText "key" key) = some found) :
    ∃ event index, StandsIn type key value event index found ∧
      ∀ event' index' other, event' < event ∨ event' = event ∧ index' < index →
        ¬ StandsIn type key value event' index' other := by
  obtain ⟨event, holder, inEvents, inHolder, notBefore⟩ := exists_place_of_find?_flatMap isFound
  obtain ⟨index, inAttributes, ofKey, notEarlier⟩ := exists_place_of_find? inHolder
  refine ⟨event, index, standsIn_iff.mpr ⟨holder, inEvents, inAttributes, ofKey⟩, ?_⟩
  intro event' index' other before stands
  obtain ⟨otherHolder, inEventsToo, inAttributesToo, ofKeyToo⟩ := standsIn_iff.mp stands
  rcases before with inEarlier | ⟨rfl, earlier⟩
  · have nothing := List.find?_eq_none.mp (notBefore event' inEarlier otherHolder inEventsToo)
    exact nothing other (List.mem_of_getElem? inAttributesToo) ofKeyToo
  · obtain rfl := Option.some.inj (inEvents.symm.trans inEventsToo)
    have notHere := notEarlier index' earlier other inAttributesToo
    rw [ofKeyToo] at notHere
    cases notHere

private theorem not_standsIn_of_find?_eq_none
    (nothing : (attributesAmong type value).find? (hasText "key" key) = none) :
    ¬ StandsIn type key value event index found := by
  intro stands
  obtain ⟨holder, inEvents, inAttributes, ofKey⟩ := standsIn_iff.mp stands
  have among : found ∈ attributesAmong type value :=
    List.mem_flatMap.mpr
      ⟨holder, List.mem_of_getElem? inEvents, List.mem_of_getElem? inAttributes⟩
  exact List.find?_eq_none.mp nothing found among ofKey

private theorem exists_firstAt_of_find?
    (isFound : (attributes type response).find? (hasText "key" key) = some found) :
    ∃ place, FirstAt type key response place found := by
  rw [attributes_eq, List.find?_append, Option.or_eq_some_iff] at isFound
  rcases isFound with inLogs | ⟨notInLogs, inResponse⟩
  · obtain ⟨log, entry, isEntry, inEntry, notBefore⟩ := exists_place_of_find?_flatMap inLogs
    obtain ⟨event, index, stands, first⟩ := exists_standsIn_of_find? inEntry
    refine ⟨.logged log event index, ⟨entry, hasItem_iff.mpr isEntry, stands⟩, ?_⟩
    intro earlier other before standsToo
    cases earlier with
    | flat event' index' => exact before
    | logged log' event' index' =>
        obtain ⟨otherEntry, isOtherEntry, standsIn⟩ := standsToo
        rw [hasItem_iff] at isOtherEntry
        rcases before with inEarlier | ⟨rfl, earlierThere⟩
        · exact not_standsIn_of_find?_eq_none
            (notBefore log' inEarlier otherEntry isOtherEntry) standsIn
        · obtain rfl := Option.some.inj (isEntry.symm.trans isOtherEntry)
          exact first event' index' other earlierThere standsIn
  · obtain ⟨event, index, stands, first⟩ := exists_standsIn_of_find? inResponse
    refine ⟨.flat event index, stands, ?_⟩
    intro earlier other before standsToo
    cases earlier with
    | flat event' index' => exact first event' index' other before standsToo
    | logged log' event' index' =>
        obtain ⟨entry, isEntry, standsIn⟩ := standsToo
        rw [hasItem_iff] at isEntry
        rw [List.find?_flatMap, List.findSome?_eq_none_iff] at notInLogs
        exact not_standsIn_of_find?_eq_none
          (notInLogs entry (List.mem_of_getElem? isEntry)) standsIn

private theorem not_standsAt_of_find?_eq_none
    {place : Place}
    (nothing : (attributes type response).find? (hasText "key" key) = none) :
    ¬ StandsAt type key response place found := by
  rw [attributes_eq, List.find?_append, Option.or_eq_none_iff] at nothing
  obtain ⟨notInLogs, notInResponse⟩ := nothing
  cases place with
  | flat event index => exact not_standsIn_of_find?_eq_none notInResponse
  | logged log event index =>
      rintro ⟨entry, isEntry, standsIn⟩
      rw [hasItem_iff] at isEntry
      rw [List.find?_flatMap, List.findSome?_eq_none_iff] at notInLogs
      exact not_standsIn_of_find?_eq_none
        (notInLogs entry (List.mem_of_getElem? isEntry)) standsIn

/-- Looking for an attribute finds the one at the first place where one stands. -/
theorem find?_attributes_eq_some_iff :
    (attributes type response).find? (hasText "key" key) = some found ↔
      ∃ place, FirstAt type key response place found := by
  constructor
  · exact exists_firstAt_of_find?
  · rintro ⟨place, first⟩
    cases search : (attributes type response).find? (hasText "key" key) with
    | none => exact absurd first.stands (not_standsAt_of_find?_eq_none search)
    | some other =>
        obtain ⟨otherPlace, otherFirst⟩ := exists_firstAt_of_find? search
        rw [first.unique otherFirst]

/-- A text is read from the first attribute alone: if its value is no text, none is read. -/
theorem eventAttribute?_eq_some_iff :
    eventAttribute? response type key = some text ↔
      ∃ place found, FirstAt type key response place found ∧
        found.member? "value" = some (.string text) := by
  have isText : ∀ found : Json, (found.member? "value").bind Json.text? = some text ↔
      found.member? "value" = some (.string text) := by
    intro found
    cases found.member? "value" with
    | none => simp
    | some member => cases member <;> simp [Json.text?]
  have readFirst : eventAttribute? response type key =
      ((attributes type response).find? (hasText "key" key)).bind fun found =>
        (found.member? "value").bind Json.text? := by
    unfold eventAttribute?
    cases (attributes type response).find? (hasText "key" key) <;> rfl
  rw [readFirst, Option.bind_eq_some_iff]
  simp only [find?_attributes_eq_some_iff, isText]
  constructor
  · rintro ⟨found, ⟨place, first⟩, read⟩
    exact ⟨place, found, first, read⟩
  · rintro ⟨place, found, first, read⟩
    exact ⟨found, ⟨place, first⟩, read⟩

/-- Parts of another type hide nothing, but an attribute whose value is no text hides those
behind it. -/
example :
    let addressOf (value : Json) : Json :=
      .object [("key", .string "_contract_address"), ("value", value)]
    let response (values : List Json) : Json :=
      .object [("logs", .array [.null, .object [("events", .bool true)]]),
        ("events", .array [.object [("type", .string "instantiate"),
          ("attributes", .array (.null :: values.map addressOf))]])]
    eventAttribute? (response [.string "sei1pool"]) "instantiate" "_contract_address" =
        some "sei1pool" ∧
      eventAttribute? (response [.null, .string "sei1pool"]) "instantiate"
        "_contract_address" = none := by
  decide +kernel

end Rollout.Seid
