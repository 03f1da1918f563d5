import Rollout.Proofs.Sorting.Cycles

/-!
Contract: a sorting that counts down, one release after the other, and its refusals.

Owns:
- the dependents of each item, linked one need at a time;
- a countdown: an item is taken from the queue, and each of its dependents is released,
  which lowers a count and may put the dependent in the queue;
- that links and rounds never leave the range of the items and never lower a count of zero;
- that the rounds of a countdown are the steps of a sorting.

Does not own: what the items are. A queue gives its least item first.
-/

namespace Rollout.Sorting

variable {needs : List (List Nat)} {sorting next : Sorting}

/-! ## Links -/

/-- What is known of needs before the first round. -/
structure Links where
  /-- For each item, the items that need it. -/
  dependents : List (List Nat)
  /-- For each item, how many items it needs. -/
  counts : List Nat

def dependentsIn (needs : List (List Nat)) : List (List Nat) :=
  (List.range needs.length).map fun item => placesWhere (item ∈ ·) needs

namespace Links

def unlinked (size : Nat) : Links :=
  ⟨List.replicate size [], List.replicate size 0⟩

/-- Note that `item` needs `needed`. Both must be in range. -/
def link? (links : Links) (needed item : Nat) : Option Links :=
  match links.dependents[needed]?, links.counts[item]? with
  | some others, some count =>
      some ⟨links.dependents.set needed (others ++ [item]), links.counts.set item (count + 1)⟩
  | _, _ => none

/-- Note all needs of an item, in order. -/
def linkItem? (item : Nat) : List Nat → Links → Option Links
  | [], links => some links
  | needed :: rest, links => (links.link? needed item).bind (linkItem? item rest)

/-- Note the needs of items, from an item on. -/
def linkFrom? : Nat → List (List Nat) → Links → Option Links
  | _, [], links => some links
  | item, needed :: rest, links => (linkItem? item needed links).bind (linkFrom? (item + 1) rest)

def ofNeeds? (needs : List (List Nat)) : Option Links :=
  linkFrom? 0 needs (unlinked needs.length)

/-- The links of some first items among as many as `size`. -/
def table (size : Nat) (first : List (List Nat)) : Links :=
  ⟨(List.range size).map fun item => placesWhere (item ∈ ·) first,
    (List.range size).map fun item => (first.getD item []).length⟩

variable {size item needed : Nat} {before rest : List (List Nat)} {earlier later : List Nat}

private theorem placesWhere_snoc
    {α : Type}
    (holds : α → Prop)
    [DecidablePred holds]
    (items : List α)
    (last : α) :
    placesWhere holds (items ++ [last]) =
      placesWhere holds items ++ if holds last then [items.length] else [] := by
  unfold placesWhere
  rw [List.zipIdx_append, List.filterMap_append]
  by_cases holdsLast : holds last <;> simp [holdsLast]

private theorem getD_snoc (before : List (List Nat)) (last : List Nat) (place : Nat) :
    (before ++ [last]).getD place [] =
      if place = before.length then last else before.getD place [] := by
  rcases Nat.lt_trichotomy place before.length with isBefore | isLast | isAfter
  · simp [List.getElem?_append_left isBefore, Nat.ne_of_lt isBefore]
  · simp [isLast]
  · have pastEnd : before.length + 1 ≤ place := isAfter
    simp [List.getElem?_eq_none, pastEnd, Nat.ne_of_gt isAfter, Nat.le_of_lt isAfter]

private theorem set_map_range
    {α : Type}
    {first second : Nat → α}
    {place : Nat}
    {value : α}
    (here : value = second place)
    (elsewhere : ∀ other, other ≠ place → first other = second other) :
    ((List.range size).map first).set place value = (List.range size).map second := by
  subst here
  apply List.ext_getElem?
  intro other
  rw [List.getElem?_set, List.getElem?_map, List.getElem?_map, List.length_map,
    List.length_range]
  by_cases isPlace : place = other
  · subst isPlace
    by_cases inRange : place < size <;> simp [inRange]
  · rw [if_neg isPlace]
    by_cases inRange : other < size
    · simp [inRange, elsewhere other (Ne.symm isPlace)]
    · simp [inRange]

/-- One more need of the last item is noted. -/
private theorem link?_table
    (inRange : needed < size)
    (itemInRange : before.length < size)
    (fresh : needed ∉ earlier) :
    (table size (before ++ [earlier])).link? needed before.length =
      some (table size (before ++ [earlier ++ [needed]])) := by
  have others : (table size (before ++ [earlier])).dependents[needed]? =
      some (placesWhere (needed ∈ ·) before) := by
    simp [table, inRange, placesWhere_snoc, fresh]
  have count : (table size (before ++ [earlier])).counts[before.length]? =
      some earlier.length := by
    simp [table, itemInRange]
  rw [link?, others, count]
  refine congrArg some (congrArg₂ Links.mk ?_ ?_)
  · apply set_map_range
    · simp [placesWhere_snoc]
    · intro other different
      simp [placesWhere_snoc, different]
  · apply set_map_range
    · simp
    · intro other different
      simp only [getD_snoc, if_neg different]

private theorem linkItem?_table
    (inRange : ∀ needed ∈ later, needed < size)
    (itemInRange : before.length < size)
    (distinct : (earlier ++ later).Nodup) :
    linkItem? before.length later (table size (before ++ [earlier])) =
      some (table size (before ++ [earlier ++ later])) := by
  induction later generalizing earlier with
  | nil => rw [List.append_nil, linkItem?]
  | cons needed rest inductionHypothesis =>
      obtain ⟨neededInRange, restInRange⟩ := List.forall_mem_cons.mp inRange
      have fresh : needed ∉ earlier := by
        intro member
        exact List.disjoint_of_nodup_append distinct member List.mem_cons_self
      rw [List.append_cons] at distinct
      rw [linkItem?, link?_table neededInRange itemInRange fresh, Option.bind_some,
        inductionHypothesis restInRange distinct, ← List.append_cons]

private theorem linkFrom?_table
    (inRange : ∀ needed ∈ rest, ∀ other ∈ needed, other < size)
    (distinct : Distinct rest)
    (before : List (List Nat))
    (fits : before.length + rest.length ≤ size) :
    linkFrom? before.length rest (table size before) =
      some (table size (before ++ rest)) := by
  induction rest generalizing before with
  | nil => rw [List.append_nil, linkFrom?]
  | cons needed rest inductionHypothesis =>
      obtain ⟨neededInRange, restInRange⟩ := List.forall_mem_cons.mp inRange
      obtain ⟨neededDistinct, restDistinct⟩ := List.forall_mem_cons.mp distinct
      rw [List.length_cons] at fits
      have unneeding : table size before = table size (before ++ [[]]) := by
        refine congrArg₂ Links.mk ?_ ?_
        · simp [placesWhere_snoc]
        · refine List.map_congr_left fun other _ => ?_
          rw [getD_snoc]
          split_ifs with atEnd
          · simp [atEnd]
          · rfl
      have linked : linkItem? before.length needed (table size (before ++ [[]])) =
          some (table size (before ++ [needed])) :=
        linkItem?_table neededInRange (by omega) neededDistinct
      have later := inductionHypothesis restInRange restDistinct (before ++ [needed])
        (by rw [List.length_append, List.length_singleton]; omega)
      rw [List.length_append, List.length_singleton, ← List.append_cons] at later
      rw [linkFrom?, unneeding, linked, Option.bind_some, later]

/-- Needs in range, each once, can be linked. -/
theorem ofNeeds?_eq (distinct : Distinct needs) (inRange : InRange needs) :
    ofNeeds? needs = some ⟨dependentsIn needs, needs.map List.length⟩ := by
  have linked := linkFrom?_table inRange distinct [] (by simp)
  have nothing : table needs.length [] = unlinked needs.length := by
    refine congrArg₂ Links.mk ?_ ?_ <;> simp [placesWhere, List.map_const']
  have counts : (List.range needs.length).map (fun item => (needs.getD item []).length) =
      needs.map List.length := by
    apply List.ext_getElem?
    intro item
    by_cases inList : item < needs.length <;> simp [inList]
  rw [nothing, List.nil_append, table, counts] at linked
  exact linked

end Links

/-! ## Rounds -/

structure Countdown where
  /-- For each item, how many of its needs are not sorted. -/
  counts : List Nat
  /-- The items to sort next, the least one first. -/
  queue : List Nat
  /-- The items that were taken from the queue, in order. -/
  sorted : List Nat
  /-- The items that were put in the queue, in order. -/
  queued : List Nat
  deriving DecidableEq, Repr

namespace Countdown

/-- The items without needs are in the queue. -/
def start (counts : List Nat) : Countdown :=
  ⟨counts, itemsAtZero counts, [], itemsAtZero counts⟩

def enqueue (item : Nat) (state : Countdown) : Countdown :=
  { state with queue := insertItem item state.queue, queued := state.queued ++ [item] }

/-- Lower the count of an item by one, and put the item in the queue when it reaches zero.
There must be such a count, and it must not be zero before. -/
def release? (item : Nat) (state : Countdown) : Option Countdown :=
  match state.counts[item]? with
  | none | some 0 => none
  | some 1 => some ({ state with counts := state.counts.set item 0 }.enqueue item)
  | some (count + 2) => some { state with counts := state.counts.set item (count + 1) }

def releaseAll? : List Nat → Countdown → Option Countdown
  | [], state => some state
  | item :: rest, state => (state.release? item).bind (releaseAll? rest)

/-- Take the least item from the queue and release its dependents. There must be one. -/
def round? (dependents : List (List Nat)) (state : Countdown) : Option Countdown :=
  match state.queue with
  | [] => none
  | item :: rest =>
      dependents[item]?.bind fun released =>
        releaseAll? released { state with queue := rest, sorted := state.sorted ++ [item] }

def rounds? (dependents : List (List Nat)) : Nat → Countdown → Option Countdown
  | 0, state => some state
  | count + 1, state => (state.round? dependents).bind (rounds? dependents count)

/-! ## Releases -/

variable {state after : Countdown} {item : Nat} {items placed : List Nat}

def enqueueAll (items : List Nat) (state : Countdown) : Countdown :=
  { state with
    queue := items.foldl (fun queue item => insertItem item queue) state.queue
    queued := state.queued ++ items }

private theorem enqueueAll_cons :
    enqueueAll (item :: items) state = enqueueAll items (state.enqueue item) := by
  simp [enqueueAll, enqueue]

/-- Counts of which those of some items are lower by one. -/
def lowered (items counts : List Nat) : List Nat :=
  counts.mapIdx fun item count => if item ∈ items then count - 1 else count

def atOne (items counts : List Nat) : List Nat :=
  items.filter fun item => counts[item]? = some 1

private theorem lowered_set
    {count : Nat}
    {counts : List Nat}
    (counted : counts[item]? = some (count + 1))
    (fresh : item ∉ items) :
    lowered items (counts.set item count) = lowered (item :: items) counts := by
  apply List.ext_getElem?
  intro other
  rw [lowered, lowered, List.getElem?_mapIdx, List.getElem?_mapIdx, List.getElem?_set]
  by_cases here : item = other
  · subst here
    obtain ⟨inRange, isCount⟩ := List.getElem?_eq_some_iff.mp counted
    simp [fresh, inRange, isCount]
  · simp [here, Ne.symm here]

private theorem atOne_set
    {count : Nat}
    {counts : List Nat}
    (fresh : item ∉ items) :
    atOne items (counts.set item count) = atOne items counts := by
  refine List.filter_congr fun other member => ?_
  have different : item ≠ other := fun same => fresh (same ▸ member)
  rw [List.getElem?_set_ne different]

/-- Items with counts above zero can be released: their counts are lowered, and those whose
count was one are put in the queue. -/
private theorem releaseAll?_eq
    (state : Countdown)
    (distinct : items.Nodup)
    (positive : ∀ item ∈ items, ∃ count, state.counts[item]? = some (count + 1)) :
    releaseAll? items state = some
      (enqueueAll (atOne items state.counts)
        { state with counts := lowered items state.counts }) := by
  induction items generalizing state with
  | nil =>
      have unchanged : lowered [] state.counts = state.counts := by
        apply List.ext_getElem?
        simp [lowered]
      rw [unchanged]
      simp [releaseAll?, enqueueAll, atOne]
  | cons item rest inductionHypothesis =>
      obtain ⟨fresh, restDistinct⟩ := List.nodup_cons.mp distinct
      obtain ⟨⟨count, counted⟩, restPositive⟩ := List.forall_mem_cons.mp positive
      have restCounts : ∀ other ∈ rest, ∃ more,
          (state.counts.set item count)[other]? = some (more + 1) := by
        intro other member
        have different : item ≠ other := fun same => fresh (same ▸ member)
        rw [List.getElem?_set_ne different]
        exact restPositive other member
      rw [releaseAll?, release?, counted]
      cases count with
      | zero =>
          have first : atOne (item :: rest) state.counts = item :: atOne rest state.counts :=
            List.filter_cons_of_pos (decide_eq_true counted)
          rw [first, enqueueAll_cons, ← lowered_set counted fresh, ← atOne_set fresh]
          exact inductionHypothesis _ restDistinct restCounts
      | succ count =>
          have notFirst : atOne (item :: rest) state.counts = atOne rest state.counts :=
            List.filter_cons_of_neg (by simp [counted])
          rw [notFirst, ← lowered_set counted fresh, ← atOne_set fresh]
          exact inductionHypothesis _ restDistinct restCounts

/-! ## Rounds and steps -/

/-- A countdown and a sorting are in the same state, and the queue holds what was put in it
but for the items that were taken from it. -/
structure Tracks (state : Countdown) (sorting : Sorting) : Prop where
  counts : state.counts = sorting.waiting
  queue : state.queue = sorting.ready
  sorted : state.sorted = sorting.placed
  queued : state.queued.Perm (state.sorted ++ state.queue)

theorem Tracks.sorting_eq (tracks : Tracks state sorting) :
    sorting = ⟨state.counts, state.queue, state.sorted⟩ := by
  rw [tracks.counts, tracks.queue, tracks.sorted]

private theorem tracks_start (needs : List (List Nat)) :
    Tracks (start (needs.map List.length)) (Sorting.start needs) :=
  ⟨rfl, rfl, rfl, .refl _⟩

private theorem openNeeds_of_mem
    {needed : List Nat}
    (distinct : needed.Nodup)
    (notPlaced : item ∉ placed)
    (needsItem : item ∈ needed) :
    openNeeds placed needed = openNeeds (placed ++ [item]) needed + 1 := by
  rw [openNeeds_eq_snoc_add distinct notPlaced, if_pos needsItem]

private theorem lowered_dependents :
    lowered (placesWhere (item ∈ ·) needs) (needs.map (openNeeds placed)) =
      waitingAfter needs item (needs.map (openNeeds placed)) := by
  apply List.ext_getElem?
  intro place
  rw [lowered, waitingAfter, List.getElem?_mapIdx, List.getElem?_zipWith, List.getElem?_map]
  cases listed : needs[place]? with
  | none => rfl
  | some needed => simp [mem_placesWhere, listed]

/-- The dependents whose last open need is an item are those that it frees. -/
private theorem atOne_dependents
    (distinct : Distinct needs)
    (notPlaced : item ∉ placed) :
    atOne (placesWhere (item ∈ ·) needs) (needs.map (openNeeds placed)) =
      freedBy needs item (needs.map (openNeeds (placed ++ [item]))) := by
  have dependentsIncreasing : (placesWhere (fun needed => item ∈ needed) needs).Pairwise (· < ·) :=
    placesWhere_increasing _ needs
  have lastNeed : ∀ needed ∈ needs, item ∈ needed →
      (openNeeds placed needed = 1 ↔ ∀ other ∈ needed, other ∈ placed ++ [item]) := by
    intro needed member needsItem
    rw [openNeeds_of_mem (distinct needed member) notPlaced needsItem, ← openNeeds_eq_zero_iff]
    omega
  rw [atOne, freedBy_eq]
  apply (dependentsIncreasing.filter _).eq_of_mem_iff (placesWhere_increasing _ _)
  intro dependent
  rw [← freedBy_eq, mem_freedBy, List.mem_filter, mem_placesWhere]
  simp only [decide_eq_true_eq, List.getElem?_map, Option.map_eq_some_iff]
  constructor
  · rintro ⟨⟨needed, listed, needsItem⟩, _, sameListed, isOne⟩
    obtain rfl := Option.some.inj (listed.symm.trans sameListed)
    exact ⟨needed, listed, needsItem,
      (lastNeed needed (List.mem_of_getElem? listed) needsItem).mp isOne⟩
  · rintro ⟨needed, listed, needsItem, closed⟩
    exact ⟨⟨needed, listed, needsItem⟩, needed, listed,
      (lastNeed needed (List.mem_of_getElem? listed) needsItem).mpr closed⟩

/-- The order in which items are put in the queue makes no difference to it. -/
private theorem foldl_insertItem
    {queue : List Nat}
    (increasing : queue.Pairwise (· < ·))
    (items : List Nat) :
    items.foldl (fun queue item => insertItem item queue) queue =
      items.foldr insertItem queue := by
  have inOrder := increasing.imp Nat.le_of_lt
  rw [List.foldl_eq_foldr_reverse]
  apply List.Perm.eq_of_pairwise' (foldr_insertItem_sorted inOrder)
    (foldr_insertItem_sorted inOrder)
  calc
    (items.reverse.foldr insertItem queue).Perm (items.reverse ++ queue) :=
      foldr_insertItem_perm _ _
    _ |>.Perm (items ++ queue) := items.reverse_perm.append_right queue
    _ |>.Perm (items.foldr insertItem queue) := (foldr_insertItem_perm _ _).symm

/-- A round whose item is not sorted lowers only counts above zero, which leaves the counts of
the open needs, and puts the freed items in the queue. -/
private theorem round?_eq
    {rest : List Nat}
    (distinct : Distinct needs)
    (counts : state.counts = needs.map (openNeeds placed))
    (queue : state.queue = item :: rest)
    (inRange : item < needs.length)
    (notPlaced : item ∉ placed) :
    state.round? (dependentsIn needs) =
      let waiting := needs.map (openNeeds (placed ++ [item]))
      some (enqueueAll (freedBy needs item waiting)
        ⟨waiting, rest, state.sorted ++ [item], state.queued⟩) := by
  have dependents : (dependentsIn needs)[item]? = some (placesWhere (item ∈ ·) needs) := by
    simp [dependentsIn, inRange]
  have positive : ∀ dependent ∈ placesWhere (item ∈ ·) needs,
      ∃ count, state.counts[dependent]? = some (count + 1) := by
    intro dependent member
    obtain ⟨needed, listed, needsItem⟩ := mem_placesWhere.mp member
    refine ⟨openNeeds (placed ++ [item]) needed, ?_⟩
    rw [counts, List.getElem?_map, listed, Option.map_some,
      openNeeds_of_mem (distinct needed (List.mem_of_getElem? listed)) notPlaced needsItem]
  have released := releaseAll?_eq
    ⟨state.counts, rest, state.sorted ++ [item], state.queued⟩
    ((placesWhere_increasing _ _).imp Nat.ne_of_lt) positive
  simp only [counts, atOne_dependents distinct notPlaced, lowered_dependents,
    waitingAfter_eq distinct notPlaced] at released
  simp only [round?, queue, dependents, Option.bind_some, counts, released]

/-- A step of a sorting is a round of the countdown that is in the same state. -/
theorem Tracks.round
    (distinct : Distinct needs)
    (consistent : Consistent needs sorting)
    (tracks : Tracks state sorting)
    (stepped : sorting.step? needs = some next) :
    ∃ after, state.round? (dependentsIn needs) = some after ∧ Tracks after next := by
  obtain ⟨item, rest, ready, rfl⟩ := step?_eq_some_iff.mp stepped
  obtain ⟨notPlaced, own, ownListed, _⟩ : Free needs sorting.placed item :=
    (consistent.mem_ready item).mp (by simp [ready])
  have queue : state.queue = item :: rest := tracks.queue.trans ready
  have waiting : waitingAfter needs item sorting.waiting =
      needs.map (openNeeds (sorting.placed ++ [item])) := by
    rw [consistent.waiting_eq, waitingAfter_eq distinct notPlaced]
  have restIncreasing := (List.pairwise_cons.mp (ready ▸ consistent.ready_increasing)).2
  refine ⟨_, round?_eq distinct (tracks.counts.trans consistent.waiting_eq) queue
    (List.getElem?_eq_some_iff.mp ownListed).1 notPlaced, ?_⟩
  rw [waiting]
  generalize freedBy needs item (needs.map (openNeeds (sorting.placed ++ [item]))) = freed
  have queueAfter := foldl_insertItem restIncreasing freed
  constructor
  · rfl
  · exact queueAfter
  · exact congrArg (· ++ [item]) tracks.sorted
  · show (state.queued ++ freed).Perm (state.sorted ++ [item] ++ freed.foldl _ rest)
    rw [queueAfter]
    calc
      (state.queued ++ freed).Perm (state.sorted ++ item :: rest ++ freed) :=
        (queue ▸ tracks.queued).append_right freed
      _ = state.sorted ++ [item] ++ (rest ++ freed) := by simp
      _ |>.Perm (state.sorted ++ [item] ++ (freed ++ rest)) :=
        List.perm_append_comm.append_left _
      _ |>.Perm (state.sorted ++ [item] ++ freed.foldr insertItem rest) :=
        (foldr_insertItem_perm freed rest).symm.append_left _

/-- As long as the queue holds an item there is a further round. -/
theorem Tracks.exists_round
    (distinct : Distinct needs)
    (consistent : Consistent needs sorting)
    (tracks : Tracks state sorting)
    (someQueued : state.queue ≠ []) :
    ∃ after, state.round? (dependentsIn needs) = some after := by
  rw [tracks.queue] at someQueued
  have notFinished : sorting.step? needs ≠ none := mt step?_eq_none_iff.mp someQueued
  obtain ⟨next, stepped⟩ := Option.ne_none_iff_exists'.mp notFinished
  obtain ⟨after, isRound, _⟩ := tracks.round distinct consistent stepped
  exact ⟨after, isRound⟩

/-- The rounds of a countdown are the steps of a sorting. -/
theorem Tracks.rounds
    (distinct : Distinct needs)
    (consistent : Consistent needs sorting)
    (tracks : Tracks state sorting)
    {count : Nat}
    (reached : state.rounds? (dependentsIn needs) count = some after) :
    Tracks after (Sorting.run needs count sorting) ∧
      after.sorted.length = state.sorted.length + count := by
  induction count generalizing state sorting with
  | zero =>
      cases reached
      exact ⟨tracks, rfl⟩
  | succ count inductionHypothesis =>
      rw [rounds?] at reached
      obtain ⟨middle, isRound, others⟩ := Option.bind_eq_some_iff.mp reached
      rw [Sorting.run]
      cases stepped : sorting.step? needs with
      | none =>
          have nothing : state.queue = [] := tracks.queue.trans (step?_eq_none_iff.mp stepped)
          rw [round?, nothing] at isRound
          cases isRound
      | some next =>
          obtain ⟨_, sameRound, tracksNext⟩ := tracks.round distinct consistent stepped
          obtain rfl := Option.some.inj (isRound.symm.trans sameRound)
          obtain ⟨tracksAfter, length⟩ := inductionHypothesis (consistent.step distinct stepped)
            tracksNext others
          refine ⟨tracksAfter, ?_⟩
          obtain ⟨item, _, _, rfl⟩ := step?_eq_some_iff.mp stepped
          rw [length, tracksNext.sorted, tracks.sorted, List.length_append, List.length_singleton]
          omega

/-- As many rounds as there are items lead to an empty queue, or fewer do. -/
theorem Tracks.exists_rounds
    (distinct : Distinct needs)
    (consistent : Consistent needs sorting)
    (tracks : Tracks state sorting)
    (count : Nat) :
    ∃ fewer ≤ count, ∃ after,
      state.rounds? (dependentsIn needs) fewer = some after ∧
        Tracks after (Sorting.run needs count sorting) := by
  induction count generalizing state sorting with
  | zero => exact ⟨0, Nat.le_refl 0, state, rfl, tracks⟩
  | succ count inductionHypothesis =>
      rw [Sorting.run]
      cases stepped : sorting.step? needs with
      | none => exact ⟨0, Nat.zero_le _, state, rfl, tracks⟩
      | some next =>
          obtain ⟨middle, isRound, tracksNext⟩ := tracks.round distinct consistent stepped
          obtain ⟨fewer, atMost, after, reached, tracksAfter⟩ :=
            inductionHypothesis (consistent.step distinct stepped) tracksNext
          refine ⟨fewer + 1, Nat.succ_le_succ atMost, after, ?_, tracksAfter⟩
          rw [rounds?, isRound, Option.bind_some, reached]

/-- Rounds from the start take one item each. -/
theorem rounds_start
    {count : Nat}
    (distinct : Distinct needs)
    (reached : (start (needs.map List.length)).rounds? (dependentsIn needs) count = some state) :
    Tracks state (Sorting.run needs count (Sorting.start needs)) ∧ state.sorted.length = count := by
  obtain ⟨tracks, length⟩ :=
    (tracks_start needs).rounds distinct (start_consistent needs) reached
  exact ⟨tracks, length.trans (Nat.zero_add count)⟩

/-- In the end the queue is empty. -/
theorem exists_rounds_start (distinct : Distinct needs) :
    ∃ last, (start (needs.map List.length)).rounds? (dependentsIn needs) last.sorted.length =
        some last ∧
      Tracks last (ofNeeds needs) ∧ last.queue = [] := by
  obtain ⟨count, _, last, reached, tracks⟩ :=
    (tracks_start needs).exists_rounds distinct (start_consistent needs) needs.length
  obtain ⟨_, length⟩ := rounds_start distinct reached
  exact ⟨last, length.symm ▸ reached, tracks, tracks.queue.trans (ofNeeds_ready distinct)⟩

end Countdown

end Rollout.Sorting
