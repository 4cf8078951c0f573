/-
Sorting by runs.

The items are divided into runs, stretches that rise or fall as they stand. A falling run is turned
round, and a short one takes in the items after it, each inserted at its place. Runs wait on a pile,
the latest on top, and neighbours are merged so that the lengths on the pile keep growing fast
towards its bottom. The sort keeps the order of items of which neither precedes the other.

Whatever the comparison answers, the result has the items that were given.
-/
import RelStore.Sorting.Merge

namespace RelStore.Sorting

variable {α ε : Type}

/-! ## Runs -/

/-- The items that continue a run after `last`, falling or not, and the items after it. -/
def runAfter (precedes : α → α → Except ε Bool) (falling : Bool) (last : α) :
    List α → Except ε (List α × List α)
  | [] => .ok ([], [])
  | next :: rest => do
    if (← precedes next last) == falling then
      let (run, others) ← runAfter precedes falling next rest
      return (next :: run, others)
    else return ([], next :: rest)

/-- The run that the items begin with, in rising order, and the items after it. -/
def firstRun (precedes : α → α → Except ε Bool) : List α → Except ε (List α × List α)
  | first :: second :: rest => do
    let falling ← precedes second first
    let (run, others) ← runAfter precedes falling second rest
    let whole := first :: second :: run
    return (if falling then whole.reverse else whole, others)
  | items => .ok (items, [])

/-- Inserts an item into sorted items, after those that it does not precede. -/
def insert (precedes : α → α → Except ε Bool) (item : α) (sorted : List α) : Except ε (List α) := do
  let place ← search false (fun other => (precedes item other).map (!·)) sorted
  return sorted.take place ++ item :: sorted.drop place

def insertAll (precedes : α → α → Except ε Bool) : List α → List α → Except ε (List α)
  | sorted, [] => .ok sorted
  | sorted, item :: rest => do insertAll precedes (← insert precedes item sorted) rest

/-- The length below which a list is sorted as one run. -/
def wholeLength : Nat := 64

/-- The least length of a run: the length of the list halved until it is short, and one more if a
half was not whole. -/
def leastRun (length : Nat) (uneven : Bool) : Nat :=
  if length < wholeLength then length + uneven.toNat
  else leastRun (length / 2) (uneven || length % 2 == 1)
termination_by length
decreasing_by simp only [wholeLength] at *; omega

/-! ## The pile -/

/-- Whether the lengths on a pile do not grow as they should: each run is to be longer than the two
above it together. -/
def needsMerge (top second third : List α) (below : List (List α)) : Bool :=
  third.length ≤ second.length + top.length ||
    (below.head?.any fun fourth => fourth.length ≤ third.length + second.length)

/-- Merges runs on a pile until the lengths grow as they should or, if all are to be merged, until
one is left. The pile has the latest run on top. -/
def settle (precedes : α → α → Except ε Bool) (all : Bool) :
    Nat → Nat → List (List α) → Except ε (Nat × List (List α))
  | bound + 1, patience, top :: second :: third :: below => do
    if all || needsMerge top second third below then
      if third.length < top.length then
        let (merged, patience) ← mergeNeighbours precedes patience third second
        settle precedes all bound patience (top :: merged :: below)
      else
        let (merged, patience) ← mergeNeighbours precedes patience second top
        settle precedes all bound patience (merged :: third :: below)
    else if second.length ≤ top.length then
      let (merged, patience) ← mergeNeighbours precedes patience second top
      settle precedes all bound patience (merged :: third :: below)
    else return (patience, top :: second :: third :: below)
  | _ + 1, patience, [top, second] => do
    if all || second.length ≤ top.length then
      let (merged, patience) ← mergeNeighbours precedes patience second top
      return (patience, [merged])
    else return (patience, [top, second])
  | _, patience, pile => .ok (patience, pile)

/-- Divides items into runs of a least length and piles them up, merging as it goes. -/
def pileUp (precedes : α → α → Except ε Bool) (least : Nat) :
    Nat → Nat → List (List α) → List α → Except ε (Nat × List (List α))
  | bound + 1, patience, pile, item :: items => do
    let (run, others) ← firstRun precedes (item :: items)
    let missing := least - run.length
    let run ← insertAll precedes run (others.take missing)
    let (patience, pile) ← settle precedes false (pile.length + 1) patience (run :: pile)
    pileUp precedes least bound patience pile (others.drop missing)
  | _, patience, pile, _ => .ok (patience, pile)

/-- The patience that merging begins with. -/
def firstPatience : Nat := longStretch

/-- Sorts items by a comparison that tells whether one precedes another. -/
def sort (precedes : α → α → Except ε Bool) (items : List α) : Except ε (List α) := do
  let least := leastRun items.length false
  let (patience, pile) ← pileUp precedes least items.length firstPatience [] items
  let (_, pile) ← settle precedes true pile.length patience pile
  return pile.flatten

end RelStore.Sorting
