/-
Merging two sorted runs into one.

Items are taken from the front of the runs, or from the back of both, so that the shorter run is
the one that is set aside. At first one item is taken at a time. When one run has given many items
in a row, whole stretches of the runs are taken, as long as the stretches are long (`galloping`).
How many items are many is learned from one merge to the next (`patience`).

Whatever the comparison answers, the merged run has the items of both.

The stretches are found with few questions. A test divides a sorted list if it holds for the items
at the front and for no others. `search` finds how many there are by halving, and `gallop` by steps
that double first, which asks less when they are few. The questions may fail, and then the search
fails. For a test that does not divide the list the answer depends on which items are asked, so
that is fixed here too.
-/
namespace RelStore.Sorting

variable {α ε : Type}

/-! ## Places in a sorted list -/

/-- The place that is asked of a list that is halved: the middle, or of two items in the middle the
one after it, or the one before it if the search is `early`. -/
def middle (early : Bool) (length : Nat) : Nat := (if early then length - 1 else length) / 2

/-- How many items at the front a test holds for, found by halving. -/
def search (early : Bool) (test : α → Except ε Bool) (items : List α) : Except ε Nat :=
  match _h : items.drop (middle early items.length) with
  | [] => .ok 0
  | item :: after => do
    if ← test item then
      return middle early items.length + 1 + (← search early test after)
    else search early test (items.take (middle early items.length))
termination_by items.length
decreasing_by
  · have hlength := congrArg List.length _h
    simp only [List.length_drop, List.length_cons] at hlength
    omega
  · have hlength := congrArg List.length _h
    simp only [List.length_drop, List.length_cons] at hlength
    simp only [List.length_take]
    omega

/-- How many items at the front a test holds for, where the next step is `stride` items long. -/
def stride (early : Bool) (test : α → Except ε Bool) : Nat → Nat → List α → Except ε Nat
  | bound + 1, length, items =>
    match items.drop (length - 1) with
    | [] => search early test items
    | item :: after => do
      if ← test item then return length + (← stride early test bound (2 * length) after)
      else search early test (items.take (length - 1))
  | 0, _, items => search early test items

/-- How many items at the front a test holds for, found by steps that double. -/
def gallop (early : Bool) (test : α → Except ε Bool) : List α → Except ε Nat
  | [] => .ok 0
  | item :: rest => do
    if ← test item then return 1 + (← stride early test rest.length 1 rest) else return 0

/-! ## Merging -/

/-- The stretches of this length or more are long. -/
def longStretch : Nat := 7

/-- How a merge goes on, and how many items in a row each run has given. -/
inductive Pace where
  | stepping (first second : Nat)
  | galloping (first second : Nat)

/-- What is left to be taken when one of two runs is at its end. The last item of the run that is
set aside comes after all of the other: that is the first run, or the second one from the back. -/
def ending? (fromBack : Bool) (first second : List α) : Option (List α) :=
  let (aside, other) := if fromBack then (second, first) else (first, second)
  match other, aside with
  | [], _ => some aside
  | _, [] => some other
  | _, [last] => some (other ++ [last])
  | _, _ => none

/-- Items taken before all that a merge gives. -/
def taking (items : List α) (merged : List α × Nat) : List α × Nat := (items ++ merged.1, merged.2)

/-- Merges what is left of two runs, in the order in which items are taken. `takesFirst` tells from
the next items of both runs which is taken. With the merged items comes what is learned. -/
def mergeRest (fromBack : Bool) (takesFirst : α → α → Except ε Bool) :
    Nat → Nat → Pace → List α → List α → Except ε (List α × Nat)
  | 0, patience, _, first, second => .ok (first ++ second, patience)
  | bound + 1, patience, pace, first, second =>
    let again := mergeRest fromBack takesFirst bound
    let step (patience ones twos : Nat) : Except ε (List α × Nat) := do
      match first, second with
      | a :: as, b :: bs =>
        if ← takesFirst a b then
          return taking [a] (← again patience (.stepping (ones + 1) 0) as (b :: bs))
        else
          return taking [b] (← again patience (.stepping 0 (twos + 1)) (a :: as) bs)
      | _, _ => return (first ++ second, patience)
    let stretches (patience : Nat) : Except ε (List α × Nat) := do
      match second with
      | [] => return (first, patience)
      | b :: bs =>
        let ones ← gallop fromBack (takesFirst · b) first
        let taken := first.take ones
        match ending? fromBack (first.drop ones) (b :: bs), ending? fromBack (first.drop ones) bs,
            first.drop ones with
        | some rest, _, _ => return (taken ++ rest, patience)
        | none, some rest, _ => return (taken ++ b :: rest, patience)
        | none, none, [] => return (taken ++ b :: bs, patience)
        | none, none, a :: as =>
          let twos ← gallop fromBack (fun b => (takesFirst a b).map (!·)) bs
          let taken := taken ++ b :: bs.take twos
          match ending? fromBack (a :: as) (bs.drop twos) with
          | some rest => return (taken ++ rest, patience)
          | none =>
            return taking (taken ++ [a]) (← again patience (.galloping ones twos) as (bs.drop twos))
    match ending? fromBack first second, pace with
    | some rest, _ => .ok (rest, patience)
    | none, .stepping ones twos =>
      if patience ≤ ones || patience ≤ twos then stretches patience else step patience ones twos
    | none, .galloping ones twos =>
      if longStretch ≤ ones || longStretch ≤ twos then stretches (max 1 (patience - 1))
      else step (patience + 1) 0 0

/-- Merges two runs of which the second begins before the first ends. -/
def mergeRuns (precedes : α → α → Except ε Bool) (patience : Nat) (first second : List α) :
    Except ε (List α × Nat) := do
  let bound := first.length + second.length
  if first.length ≤ second.length then
    match second with
    | [] => return (first, patience)
    | b :: bs =>
      let takesFirst (a b : α) : Except ε Bool := (precedes b a).map (!·)
      return taking [b] (← mergeRest false takesFirst bound patience (.stepping 0 0) first bs)
  else
    match first.reverse with
    | [] => return (second, patience)
    | a :: as =>
      let (merged, patience) ← mergeRest true (fun a b => precedes b a) bound patience
        (.stepping 0 0) as second.reverse
      return ((a :: merged).reverse, patience)

/-- Merges two neighbouring runs. What the first begins with and the second ends with stays where
it is. -/
def mergeNeighbours (precedes : α → α → Except ε Bool) (patience : Nat) (first second : List α) :
    Except ε (List α × Nat) := do
  match second with
  | [] => return (first, patience)
  | least :: _ =>
    let before ← gallop false (fun a => (precedes least a).map (!·)) first
    match (first.drop before).getLast? with
    | none => return (first ++ second, patience)
    | some greatest =>
      let after ← gallop true (fun b => (precedes b greatest).map (!·)) second.reverse
      let split := second.length - after
      if split = 0 then return (first ++ second, patience)
      let (merged, patience) ← mergeRuns precedes patience (first.drop before) (second.take split)
      return (first.take before ++ merged ++ second.drop split, patience)

end RelStore.Sorting
