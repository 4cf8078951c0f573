/-
Sorting fails only as its comparison does.

Whatever the comparison answers, sorting does nothing else that can fail (`failsOnly_sort`). Values
of one family are always in some order, so that items whose values are of the same families are
sorted (`exists_sortItems`).
-/
import RelStore.Proofs.Failing
import RelStore.Proofs.Sorting
import RelStore.Sorting

namespace RelStore

/-! ## Sorting in general -/

namespace Sorting

variable {α ε : Type} {failing : ε → Prop} {early fromBack : Bool}

section

variable {test : α → Except ε Bool} (h : ∀ a, FailsOnly failing (test a))

include h

theorem failsOnly_search (items : List α) : FailsOnly failing (search early test items) := by
  fun_induction search early test items with
  | case1 items hdrop => exact .ok _
  | case2 items item after hdrop ihafter ihbefore =>
    exact (h item).bind fun _ _ => .ite (fun _ => ihafter.bind fun _ _ => .pure _) fun _ => ihbefore

theorem failsOnly_stride (bound length : Nat) (items : List α) :
    FailsOnly failing (stride early test bound length items) := by
  induction bound generalizing length items with
  | zero => exact failsOnly_search h _
  | succ bound ih =>
    rw [stride]
    split
    · exact failsOnly_search h _
    · exact (h _).bind fun _ _ =>
        .ite (fun _ => (ih _ _).bind fun _ _ => .pure _) fun _ => failsOnly_search h _

theorem failsOnly_gallop (items : List α) : FailsOnly failing (gallop early test items) := by
  cases items with
  | nil => exact .ok _
  | cons item rest =>
    exact (h item).bind fun _ _ =>
      .ite (fun _ => (failsOnly_stride h _ _ _).bind fun _ _ => .pure _) fun _ => .pure _

end

section

variable {precedes : α → α → Except ε Bool} (h : ∀ a b, FailsOnly failing (precedes a b))

include h

theorem failsOnly_mergeRest (bound patience : Nat) (pace : Pace) (first second : List α) :
    FailsOnly failing (mergeRest fromBack precedes bound patience pace first second) := by
  induction bound generalizing patience pace first second with
  | zero => exact .ok _
  | succ bound ih =>
    have hstep (patience ones twos : Nat) : FailsOnly failing
        (mergeStep precedes (mergeRest fromBack precedes bound) first second patience ones twos) := by
      match first, second with
      | _ :: _, _ :: _ =>
        exact (h _ _).bind fun _ _ => .ite (fun _ => (ih _ _ _ _).bind fun _ _ => .pure _)
          fun _ => (ih _ _ _ _).bind fun _ _ => .pure _
      | [], _ => exact .pure _
      | _ :: _, [] => exact .pure _
    have hstretches (patience : Nat) : FailsOnly failing
        (mergeStretches fromBack precedes (mergeRest fromBack precedes bound) first second
          patience) := by
      cases second with
      | nil => exact .pure _
      | cons b bs =>
        refine (failsOnly_gallop (fun a => h a b) _).bind fun ones _ => ?_
        dsimp only
        split
        · exact .pure _
        · exact .pure _
        · exact .pure _
        · refine (failsOnly_gallop (fun b => (h _ b).map) _).bind fun twos _ => ?_
          split
          · exact .pure _
          · exact (ih _ _ _ _).bind fun _ _ => .pure _
    rw [mergeRest_succ]
    split
    · exact .ok _
    · exact .ite (fun _ => hstretches _) fun _ => hstep _ _ _
    · exact .ite (fun _ => hstretches _) fun _ => hstep _ _ _

theorem failsOnly_mergeRuns (patience : Nat) (first second : List α) :
    FailsOnly failing (mergeRuns precedes patience first second) := by
  refine .ite (fun _ => ?_) fun _ => ?_
  · split
    · exact .pure _
    · exact (failsOnly_mergeRest (fun a b => (h b a).map) _ _ _ _ _).bind fun _ _ => .pure _
  · split
    · exact .pure _
    · exact (failsOnly_mergeRest (fun a b => h b a) _ _ _ _ _).bind fun _ _ => .pure _

theorem failsOnly_mergeNeighbours (patience : Nat) (first second : List α) :
    FailsOnly failing (mergeNeighbours precedes patience first second) := by
  cases second with
  | nil => exact .pure _
  | cons least rest =>
    refine (failsOnly_gallop (fun a => (h least a).map) _).bind fun before _ => ?_
    split
    · exact .pure _
    refine (failsOnly_gallop (fun b => (h b _).map) _).bind fun after _ => ?_
    exact .ite (fun _ => .pure _) fun _ => (failsOnly_mergeRuns h _ _ _).bind fun _ _ => .pure _

theorem failsOnly_firstRun (items : List α) : FailsOnly failing (firstRun precedes items) := by
  have hafter (falling : Bool) (last : α) (rest : List α) :
      FailsOnly failing (runAfter precedes falling last rest) := by
    induction rest generalizing last with
    | nil => exact .ok _
    | cons next rest ih =>
      exact (h _ _).bind fun _ _ => .ite (fun _ => (ih _).bind fun _ _ => .pure _) fun _ => .pure _
  match items with
  | [] => exact .ok _
  | [_] => exact .ok _
  | _ :: _ :: _ => exact (h _ _).bind fun _ _ => (hafter _ _ _).bind fun _ _ => .pure _

theorem failsOnly_insertAll (sorted items : List α) :
    FailsOnly failing (insertAll precedes sorted items) := by
  induction items generalizing sorted with
  | nil => exact .ok _
  | cons item rest ih =>
    refine FailsOnly.bind ?_ fun _ _ => ih _
    exact (failsOnly_search (fun other => (h item other).map) _).bind fun _ _ => .pure _

theorem failsOnly_settle (all : Bool) (bound patience : Nat) (pile : List (List α)) :
    FailsOnly failing (settle precedes all bound patience pile) := by
  induction bound generalizing patience pile with
  | zero => exact .ok _
  | succ bound ih =>
    match pile with
    | [] => exact .ok _
    | [_] => exact .ok _
    | [_, _] =>
      exact .ite (fun _ => (failsOnly_mergeNeighbours h _ _ _).bind fun _ _ => .pure _) fun _ => .pure _
    | _ :: _ :: _ :: _ =>
      refine .ite (fun _ => .ite (fun _ => ?_) fun _ => ?_) fun _ => .ite (fun _ => ?_) fun _ => .pure _
      all_goals exact (failsOnly_mergeNeighbours h _ _ _).bind fun _ _ => ih _ _

theorem failsOnly_pileUp (least bound patience : Nat) (pile : List (List α)) (items : List α) :
    FailsOnly failing (pileUp precedes least bound patience pile items) := by
  induction bound generalizing patience pile items with
  | zero => exact .ok _
  | succ bound ih =>
    cases items with
    | nil => exact .ok _
    | cons item items =>
      exact (failsOnly_firstRun h _).bind fun _ _ => (failsOnly_insertAll h _ _).bind fun _ _ =>
        (failsOnly_settle h _ _ _ _).bind fun _ _ => ih _ _ _

end

/-- **Sorting fails only as the comparison of two of the items does.** -/
theorem failsOnly_sort {precedes : α → α → Except ε Bool} {items : List α}
    (h : ∀ a ∈ items, ∀ b ∈ items, FailsOnly failing (precedes a b)) :
    FailsOnly failing (sort precedes items) := by
  -- sorted as members of the list, the items are all comparable
  have hpair (a b : {a // a ∈ items}) : FailsOnly failing (precedes a.1 b.1) := h a.1 a.2 b.1 b.2
  rw [← List.attach_map_subtype_val items, sort_map]
  refine FailsOnly.fmap ((failsOnly_pileUp hpair _ _ _ _ _).bind fun _ _ => ?_)
  exact (failsOnly_settle hpair _ _ _ _).bind fun _ _ => .pure _

end Sorting

/-! ## Families -/

/-- A value is NULL or a scalar of the family. -/
def Value.Fits (family : Family) (v : Value) : Prop := ∀ s ∈ v, s.family = family

theorem Value.fits_none (family : Family) : Value.Fits family none := nofun

theorem Value.fits_some {family : Family} {s : Scalar} : Value.Fits family (some s) ↔ s.family = family :=
  ⟨fun h => h s rfl, by rintro h _ ⟨⟩; exact h⟩

theorem Value.fits_of_conforms {v : Value} {type : DataType} (h : v.conforms type = true) :
    v.Fits type.family := by
  rintro s ⟨⟩
  cases s <;> cases type <;> first | rfl | cases h

theorem Scalar.exists_compare? {a b : Scalar} (h : a.family = b.family) :
    ∃ order, a.compare? b = some order := by
  cases a <;> cases b <;> first | exact ⟨_, rfl⟩ | cases h

section

variable {family : Family} {v w : Value}

theorem exists_compareSort (direction : Sql.Direction) (hv : v.Fits family) (hw : w.Fits family) :
    ∃ order, compareSort direction v w = .ok order := by
  rcases v with _ | a <;> rcases w with _ | b
  case some.some =>
    obtain ⟨order, horder⟩ := Scalar.exists_compare? ((hv a rfl).trans (hw b rfl).symm)
    exact ⟨_, by rw [compareSort, horder]⟩
  all_goals exact ⟨_, rfl⟩

/-- Values are each of the family in its place. -/
abbrev AllFit (families : List Family) (values : List Value) : Prop :=
  List.Forall₂ Value.Fits families values

theorem exists_compareKeys (directions : List Sql.Direction) {families : List Family}
    {values others : List Value} (h : AllFit families values) (hothers : AllFit families others) :
    ∃ order, compareKeys directions values others = .ok order := by
  induction directions generalizing families values others with
  | nil => exact ⟨_, rfl⟩
  | cons direction directions ih =>
    cases h with
    | nil => exact ⟨_, rfl⟩
    | cons hv hvalues =>
      cases hothers with
      | cons hw hothers =>
        obtain ⟨order, horder⟩ := exists_compareSort direction hv hw
        rw [compareKeys, horder]
        cases order with
        | eq => exact ih hvalues hothers
        | lt => exact ⟨_, rfl⟩
        | gt => exact ⟨_, rfl⟩

/-- **Items with values of the same families are sorted.** -/
theorem exists_sortItems {α : Type} (directions : List Sql.Direction) {families : List Family}
    {items : List (α × List Value)} (h : ∀ item ∈ items, AllFit families item.2) :
    ∃ sorted, sortItems directions items = .ok sorted := by
  refine FailsOnly.exists_ok ((Sorting.failsOnly_sort fun a ha b hb => ?_).bind fun _ _ => .pure _)
  have hvalues {a : Sortable α} (ha : a ∈ items.mapIdx fun position item =>
      Sortable.mk item.1 item.2 position) : AllFit families a.values := by
    obtain ⟨position, hposition, rfl⟩ := List.mem_mapIdx.1 ha
    exact h _ (List.getElem_mem hposition)
  obtain ⟨order, horder⟩ := exists_compareKeys directions (hvalues ha) (hvalues hb)
  rw [Sortable.precedes, Sortable.compare, horder]
  cases order <;> exact FailsOnly.map (.pure _)

end

end RelStore
