/-
Sorting rests on what the comparison says.

Items that stand for others are sorted as these are: sorting does with items nothing but compare
them, and so it is the same whether the items are exchanged before or after it (`sort_map`). The
proof goes through sorting part by part, from the search for a place to the pile of runs.
-/
import Mathlib.Data.List.Basic
import RelStore.Sorting.Runs

namespace RelStore.Sorting

variable {α β ε : Type} {f : α → β}

/-! ## Searching -/

/-- Searching step by step. -/
theorem search_eq (early : Bool) (test : α → Except ε Bool) (items : List α) :
    search early test items = (match items.drop (middle early items.length) with
      | [] => .ok 0
      | item :: after => do
        if ← test item then
          return middle early items.length + 1 + (← search early test after)
        else search early test (items.take (middle early items.length))) := by
  conv_lhs => rw [search]
  split
  next h => rw [h]
  next item after h => rw [h]

theorem search_map (early : Bool) (test : β → Except ε Bool) (items : List α) :
    search early test (items.map f) = search early (fun a => test (f a)) items := by
  fun_induction search early (fun a => test (f a)) items with
  | case1 items h =>
    rw [search_eq, List.length_map, ← List.map_drop, h]
    rfl
  | case2 items item after h hafter hbefore =>
    rw [search_eq, List.length_map, ← List.map_drop, h, ← List.map_take]
    simp only [List.map_cons, hafter, hbefore]

theorem stride_map (early : Bool) (test : β → Except ε Bool) (bound length : Nat)
    (items : List α) :
    stride early test bound length (items.map f) =
      stride early (fun a => test (f a)) bound length items := by
  induction bound generalizing length items with
  | zero => exact search_map early test items
  | succ bound ih =>
    rw [stride, stride, ← List.map_drop, ← List.map_take]
    cases items.drop (length - 1) with
    | nil => exact search_map early test items
    | cons item after => simp only [List.map_cons, ih, search_map]

theorem gallop_map (early : Bool) (test : β → Except ε Bool) (items : List α) :
    gallop early test (items.map f) = gallop early (fun a => test (f a)) items := by
  cases items with
  | nil => rfl
  | cons item rest => simp only [List.map_cons, gallop, stride_map, List.length_map]

/-! ## Merging -/

theorem ending?_map (fromBack : Bool) (first second : List α) :
    ending? fromBack (first.map f) (second.map f) =
      (ending? fromBack first second).map (List.map f) := by
  cases fromBack <;> simp only [ending?, Bool.false_eq_true, if_true, if_false]
  all_goals
    rcases first with _ | ⟨a, _ | ⟨b, as⟩⟩ <;> rcases second with _ | ⟨c, _ | ⟨d, bs⟩⟩ <;> simp

/-- What is merged, of the items that others stand for. -/
def mapMerged (f : α → β) (merged : List α × Nat) : List β × Nat := (merged.1.map f, merged.2)

theorem mapMerged_taking (items : List α) (merged : List α × Nat) :
    mapMerged f (taking items merged) = taking (items.map f) (mapMerged f merged) := by
  simp [mapMerged, taking]

section

variable (fromBack : Bool) (takesFirst : α → α → Except ε Bool)
  (again : Nat → Pace → List α → List α → Except ε (List α × Nat))

/-- A round of a merge that takes one item. -/
def mergeStep (first second : List α) (patience ones twos : Nat) : Except ε (List α × Nat) := do
  match first, second with
  | a :: as, b :: bs =>
    if ← takesFirst a b then
      return taking [a] (← again patience (.stepping (ones + 1) 0) as (b :: bs))
    else
      return taking [b] (← again patience (.stepping 0 (twos + 1)) (a :: as) bs)
  | _, _ => return (first ++ second, patience)

/-- A round of a merge that takes a stretch of each run. -/
def mergeStretches (first second : List α) (patience : Nat) : Except ε (List α × Nat) := do
  match second with
  | [] => return (first, patience)
  | b :: bs =>
    let ones ← gallop fromBack (takesFirst · b) first
    let taken := first.take ones
    match ending? fromBack (first.drop ones) (b :: bs), ending? fromBack (first.drop ones) bs,
        first.drop ones with
    | some rest, _, _ => return (taken ++ rest, patience)
    | none, some rest, _ => return (taken ++ b :: rest, patience)
    | none, none, [] => return (taken ++ b :: bs, patience)
    | none, none, a :: as =>
      let twos ← gallop fromBack (fun b => (takesFirst a b).map (!·)) bs
      let taken := taken ++ b :: bs.take twos
      match ending? fromBack (a :: as) (bs.drop twos) with
      | some rest => return (taken ++ rest, patience)
      | none =>
        return taking (taken ++ [a]) (← again patience (.galloping ones twos) as (bs.drop twos))

end

theorem mergeRest_succ (fromBack : Bool) (takesFirst : α → α → Except ε Bool)
    (bound patience : Nat) (pace : Pace) (first second : List α) :
    mergeRest fromBack takesFirst (bound + 1) patience pace first second =
      (match ending? fromBack first second, pace with
      | some rest, _ => .ok (rest, patience)
      | none, .stepping ones twos =>
        if patience ≤ ones || patience ≤ twos then
          mergeStretches fromBack takesFirst (mergeRest fromBack takesFirst bound) first second
            patience
        else mergeStep takesFirst (mergeRest fromBack takesFirst bound) first second patience ones twos
      | none, .galloping ones twos =>
        if longStretch ≤ ones || longStretch ≤ twos then
          mergeStretches fromBack takesFirst (mergeRest fromBack takesFirst bound) first second
            (max 1 (patience - 1))
        else
          mergeStep takesFirst (mergeRest fromBack takesFirst bound) first second (patience + 1) 0 0) :=
  rfl

section

variable {fromBack : Bool} {takesFirst : β → β → Except ε Bool}
  {again : Nat → Pace → List β → List β → Except ε (List β × Nat)}
  {again' : Nat → Pace → List α → List α → Except ε (List α × Nat)}

theorem mergeStep_map (h : ∀ patience pace first second, again patience pace (first.map f)
      (second.map f) = mapMerged f <$> again' patience pace first second)
    (first second : List α) (patience ones twos : Nat) :
    mergeStep takesFirst again (first.map f) (second.map f) patience ones twos =
      mapMerged f <$>
        mergeStep (fun a b => takesFirst (f a) (f b)) again' first second patience ones twos := by
  rcases first with _ | ⟨a, as⟩
  · simp [mergeStep, mapMerged]
  rcases second with _ | ⟨b, bs⟩
  · simp [mergeStep, mapMerged]
  simp only [mergeStep, List.map_cons, map_bind]
  refine bind_congr fun takes => ?_
  have hfirst := h patience (.stepping (ones + 1) 0) as (b :: bs)
  have hsecond := h patience (.stepping 0 (twos + 1)) (a :: as) bs
  rw [List.map_cons] at hfirst hsecond
  split
  · simp [hfirst, mapMerged_taking]
  · simp [hsecond, mapMerged_taking]

theorem mergeStretches_map (h : ∀ patience pace first second, again patience pace (first.map f)
      (second.map f) = mapMerged f <$> again' patience pace first second)
    (first second : List α) (patience : Nat) :
    mergeStretches fromBack takesFirst again (first.map f) (second.map f) patience =
      mapMerged f <$> mergeStretches fromBack (fun a b => takesFirst (f a) (f b)) again' first second
        patience := by
  rcases second with _ | ⟨b, bs⟩
  · simp [mergeStretches, mapMerged]
  simp only [mergeStretches, List.map_cons, map_bind, gallop_map]
  refine bind_congr fun ones => ?_
  have hall := ending?_map (f := f) fromBack (first.drop ones) (b :: bs)
  have hrest := ending?_map (f := f) fromBack (first.drop ones) bs
  rw [List.map_cons] at hall
  rw [← List.map_drop, ← List.map_take, hall, hrest]
  cases ending? fromBack (first.drop ones) (b :: bs) with
  | some rest => simp [mapMerged]
  | none =>
    cases ending? fromBack (first.drop ones) bs with
    | some rest => simp [mapMerged]
    | none =>
      cases first.drop ones with
      | nil => simp [mapMerged]
      | cons a as =>
        simp only [Option.map_none, List.map_cons, map_bind]
        refine bind_congr fun twos => ?_
        have hlast := ending?_map (f := f) fromBack (a :: as) (bs.drop twos)
        rw [List.map_cons] at hlast
        rw [← List.map_drop, ← List.map_take, hlast]
        cases ending? fromBack (a :: as) (bs.drop twos) with
        | some rest => simp [mapMerged]
        | none =>
          have hagain := h patience (.galloping ones twos) as (bs.drop twos)
          rw [List.map_drop] at hagain
          simp [hagain, mapMerged_taking]

end

theorem mergeRest_map (fromBack : Bool) (takesFirst : β → β → Except ε Bool) (bound patience : Nat)
    (pace : Pace) (first second : List α) :
    mergeRest fromBack takesFirst bound patience pace (first.map f) (second.map f) =
      mapMerged f <$>
        mergeRest fromBack (fun a b => takesFirst (f a) (f b)) bound patience pace first second := by
  induction bound generalizing patience pace first second with
  | zero => simp [mergeRest, mapMerged]
  | succ bound ih =>
    rw [mergeRest_succ, mergeRest_succ, ending?_map]
    cases ending? fromBack first second with
    | some rest => rfl
    | none =>
      cases pace with
      | stepping ones twos =>
        simp only [Option.map_none, mergeStretches_map ih, mergeStep_map ih]
        split <;> rfl
      | galloping ones twos =>
        simp only [Option.map_none, mergeStretches_map ih, mergeStep_map ih]
        split <;> rfl

theorem mergeRuns_map (precedes : β → β → Except ε Bool) (patience : Nat) (first second : List α) :
    mergeRuns precedes patience (first.map f) (second.map f) =
      mapMerged f <$> mergeRuns (fun a b => precedes (f a) (f b)) patience first second := by
  simp only [mergeRuns, List.length_map]
  split
  · cases second with
    | nil => simp [mapMerged]
    | cons b bs => simp [mergeRest_map, mapMerged_taking]
  · rw [← List.map_reverse, ← List.map_reverse]
    cases first.reverse with
    | nil => simp [mapMerged]
    | cons a as => simp only [List.map_cons, mergeRest_map]; simp [mapMerged]

theorem mergeNeighbours_map (precedes : β → β → Except ε Bool) (patience : Nat)
    (first second : List α) : mergeNeighbours precedes patience (first.map f) (second.map f) =
      mapMerged f <$> mergeNeighbours (fun a b => precedes (f a) (f b)) patience first second := by
  cases second with
  | nil => simp [mergeNeighbours, mapMerged]
  | cons least rest =>
    simp only [mergeNeighbours, List.map_cons, map_bind, gallop_map]
    refine bind_congr fun before => ?_
    rw [← List.map_drop, List.getLast?_map]
    cases (first.drop before).getLast? with
    | none => simp [mapMerged]
    | some greatest =>
      simp only [Option.map_some, map_bind, ← List.map_cons, ← List.map_reverse, gallop_map]
      refine bind_congr fun after => ?_
      rw [List.length_map]
      split
      · simp [mapMerged]
      · rw [← List.map_take, ← List.map_take, mergeRuns_map, ← List.map_drop]
        simp [mapMerged]

/-! ## Runs -/

/-- Two parts of what was given, of the items that others stand for. -/
def mapParts (f : α → β) (parts : List α × List α) : List β × List β :=
  (parts.1.map f, parts.2.map f)

theorem runAfter_map (precedes : β → β → Except ε Bool) (falling : Bool) (last : α)
    (items : List α) : runAfter precedes falling (f last) (items.map f) =
      mapParts f <$> runAfter (fun a b => precedes (f a) (f b)) falling last items := by
  induction items generalizing last with
  | nil => simp [runAfter, mapParts]
  | cons next rest ih =>
    simp only [List.map_cons, runAfter, map_bind, ih]
    refine bind_congr fun takes => ?_
    split
    · simp [mapParts]
    · simp [mapParts]

theorem firstRun_map (precedes : β → β → Except ε Bool) (items : List α) :
    firstRun precedes (items.map f) =
      mapParts f <$> firstRun (fun a b => precedes (f a) (f b)) items := by
  rcases items with _ | ⟨first, _ | ⟨second, rest⟩⟩
  · simp [firstRun, mapParts]
  · simp [firstRun, mapParts]
  · simp only [List.map_cons, firstRun, map_bind, runAfter_map]
    refine bind_congr fun falling => ?_
    cases falling <;> simp [mapParts]

theorem insert_map (precedes : β → β → Except ε Bool) (item : α) (sorted : List α) :
    insert precedes (f item) (sorted.map f) =
      List.map f <$> insert (fun a b => precedes (f a) (f b)) item sorted := by
  simp [insert, search_map]

theorem insertAll_map (precedes : β → β → Except ε Bool) (sorted items : List α) :
    insertAll precedes (sorted.map f) (items.map f) =
      List.map f <$> insertAll (fun a b => precedes (f a) (f b)) sorted items := by
  induction items generalizing sorted with
  | nil => rfl
  | cons item rest ih => simp [insertAll, insert_map, ih]

/-! ## The pile -/

/-- What is learned, and a pile of the items that others stand for. -/
def mapPile (f : α → β) (state : Nat × List (List α)) : Nat × List (List β) :=
  (state.1, state.2.map (List.map f))

theorem settle_map (precedes : β → β → Except ε Bool) (all : Bool) (bound patience : Nat)
    (pile : List (List α)) : settle precedes all bound patience (pile.map (List.map f)) =
      mapPile f <$> settle (fun a b => precedes (f a) (f b)) all bound patience pile := by
  induction bound generalizing patience pile with
  | zero => simp [settle, mapPile]
  | succ bound ih =>
    rcases pile with _ | ⟨top, _ | ⟨second, _ | ⟨third, below⟩⟩⟩
    · simp [settle, mapPile]
    · simp [settle, mapPile]
    · simp only [List.map_cons, List.map_nil, settle, List.length_map]
      split
      · simp [mergeNeighbours_map, mapMerged, mapPile]
      · simp [mapPile]
    · have hneeds : needsMerge (top.map f) (second.map f) (third.map f) (below.map (List.map f)) =
          needsMerge top second third below := by
        cases below <;> simp [needsMerge]
      simp only [List.map_cons, settle, List.length_map, hneeds, mergeNeighbours_map]
      split
      · split
        · simp only [bind_map_left, map_bind, mapMerged]
          refine bind_congr fun merged => ?_
          exact ih merged.2 (top :: merged.1 :: below)
        · simp only [bind_map_left, map_bind, mapMerged]
          refine bind_congr fun merged => ?_
          exact ih merged.2 (merged.1 :: third :: below)
      · split
        · simp only [bind_map_left, map_bind, mapMerged]
          refine bind_congr fun merged => ?_
          exact ih merged.2 (merged.1 :: third :: below)
        · simp [mapPile]

theorem pileUp_map (precedes : β → β → Except ε Bool) (least bound patience : Nat)
    (pile : List (List α)) (items : List α) :
    pileUp precedes least bound patience (pile.map (List.map f)) (items.map f) =
      mapPile f <$>
        pileUp (fun a b => precedes (f a) (f b)) least bound patience pile items := by
  induction bound generalizing patience pile items with
  | zero => simp [pileUp, mapPile]
  | succ bound ih =>
    cases items with
    | nil => simp [pileUp, mapPile]
    | cons item items =>
      have hrun := firstRun_map (f := f) precedes (item :: items)
      rw [List.map_cons] at hrun
      simp only [List.map_cons, pileUp, hrun, bind_map_left, map_bind, mapParts, List.length_map,
        ← List.map_take, ← List.map_drop, insertAll_map]
      refine bind_congr fun parts => bind_congr fun run => ?_
      rw [← List.map_cons, settle_map, bind_map_left]
      exact bind_congr fun state => ih _ _ _

/-- **Sorting rests on what the comparison says of the items**, not on what they are. -/
theorem sort_map (precedes : β → β → Except ε Bool) (items : List α) :
    sort precedes (items.map f) =
      List.map f <$> sort (fun a b => precedes (f a) (f b)) items := by
  have hpile := pileUp_map (f := f) precedes (leastRun items.length false) items.length
    firstPatience [] items
  rw [List.map_nil] at hpile
  simp only [sort, List.length_map, hpile, bind_map_left, map_bind, mapPile, settle_map]
  simp

end RelStore.Sorting
