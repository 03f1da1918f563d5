/-!
Contract: an order of numbered items in which each comes after the items that it
needs.

Owns:
- the state of the sorting: how many needs of each item are open, which items
  are ready, and which are placed;
- one step, which places the least ready item, and the run of all steps.

Does not own: what the items are. An item that needs itself, directly or through
others, is never placed.
-/

namespace Rollout

/-- The state of a sorting of the items `0`, `1`, …. -/
structure Sorting where
  /-- For each item, how many of the items that it needs are not placed. -/
  waiting : List Nat
  /-- The items that are not placed and wait for none, in increasing order. -/
  ready : List Nat
  /-- The placed items, in the order of their placing. -/
  placed : List Nat
  deriving DecidableEq, Repr

namespace Sorting

def itemsAtZero (counts : List Nat) : List Nat :=
  counts.zipIdx.filterMap fun (count, item) =>
    if count = 0 then some item else none

/-- The state in which nothing is placed. -/
def start (needs : List (List Nat)) : Sorting :=
  let waiting := needs.map List.length
  ⟨waiting, itemsAtZero waiting, []⟩

/-- Put an item at its place in an increasing list. -/
def insertItem (item : Nat) : List Nat → List Nat
  | [] => [item]
  | first :: rest =>
      if item ≤ first then item :: first :: rest else first :: insertItem item rest

/-- The open counts after an item is placed. -/
def waitingAfter
    (needs : List (List Nat))
    (item : Nat)
    (waiting : List Nat) :
    List Nat :=
  List.zipWith
    (fun needed count => if item ∈ needed then count - 1 else count)
    needs waiting

/-- The items that need a given item and wait for none. -/
def freedBy
    (needs : List (List Nat))
    (item : Nat)
    (waiting : List Nat) :
    List Nat :=
  (needs.zip waiting).zipIdx.filterMap fun ((needed, count), dependent) =>
    if item ∈ needed ∧ count = 0 then some dependent else none

/-- Place the least ready item, if there is one. -/
def step?
    (needs : List (List Nat))
    (sorting : Sorting) :
    Option Sorting :=
  match sorting.ready with
  | [] => none
  | item :: rest =>
      let waiting := waitingAfter needs item sorting.waiting
      some
        ⟨waiting, (freedBy needs item waiting).foldr insertItem rest,
          sorting.placed ++ [item]⟩

/-- Place items until none is ready, in at most the given number of steps. -/
def run
    (needs : List (List Nat)) :
    Nat → Sorting → Sorting
  | 0, sorting => sorting
  | steps + 1, sorting =>
      match sorting.step? needs with
      | none => sorting
      | some next => run needs steps next

/-- Sort items by what they need. No item is placed twice, so there are no more
steps than items. -/
def ofNeeds (needs : List (List Nat)) : Sorting :=
  run needs needs.length (start needs)

def isWaiting
    (sorting : Sorting)
    (item : Nat) :
    Bool :=
  0 < sorting.waiting.getD item 0

end Sorting

end Rollout
