/-
Sorting loses and repeats no item.

Whatever the comparison answers, the items of the result are those that were given (`sort_perm`):
each part of the sort moves items and does nothing else with them, from a merge of two runs to the
pile that the runs wait on. The comparison may fail, and then there is no result.
-/
import RelStore.Proofs.Sorting
import RelStore.Proofs.Success
import RelStore.Sorting

namespace RelStore

open scoped List

namespace Sorting

variable {α ε : Type} {fromBack : Bool} {precedes : α → α → Except ε Bool} {patience after : Nat}
  {first second merged rest items others run : List α}

/-! ## Merging -/

theorem ending?_perm (h : ending? fromBack first second = some rest) :
    rest ~ first ++ second := by
  cases fromBack <;> simp only [ending?, Bool.false_eq_true, if_false, if_true] at h
  case false =>
    split at h
    next => simp_all
    next => simp_all
    next last => exact Option.some.inj h ▸ List.perm_append_comm
    next => cases h
  case true =>
    split at h
    next => simp_all
    next => simp_all
    next => exact .of_eq (Option.some.inj h).symm
    next => cases h

section

variable {takesFirst : α → α → Except ε Bool}
  {again : Nat → Pace → List α → List α → Except ε (List α × Nat)}
  (hagain : ∀ {patience pace first second merged after},
    again patience pace first second = .ok (merged, after) → merged ~ first ++ second)

include hagain

theorem mergeStep_perm {ones twos : Nat}
    (h : mergeStep takesFirst again first second patience ones twos = .ok (merged, after)) :
    merged ~ first ++ second := by
  rcases first with _ | ⟨a, as⟩
  · exact .of_eq (congrArg Prod.fst (pure_eq_ok.1 h)).symm
  rcases second with _ | ⟨b, bs⟩
  · exact .of_eq (congrArg Prod.fst (pure_eq_ok.1 h)).symm
  obtain ⟨isFirst, -, h⟩ := bind_eq_ok.1 h
  cases isFirst with
  | true =>
    obtain ⟨⟨others, _⟩, hothers, h⟩ := bind_eq_ok.1 h
    obtain ⟨rfl, -⟩ := Prod.mk.inj (pure_eq_ok.1 h)
    exact (hagain hothers).cons a
  | false =>
    obtain ⟨⟨others, _⟩, hothers, h⟩ := bind_eq_ok.1 h
    obtain ⟨rfl, -⟩ := Prod.mk.inj (pure_eq_ok.1 h)
    exact ((hagain hothers).cons b).trans List.perm_middle.symm

theorem mergeStretches_perm
    (h : mergeStretches fromBack takesFirst again first second patience = .ok (merged, after)) :
    merged ~ first ++ second := by
  rcases second with _ | ⟨b, bs⟩
  · rw [List.append_nil]
    exact .of_eq (congrArg Prod.fst (pure_eq_ok.1 h)).symm
  obtain ⟨ones, -, h⟩ := bind_eq_ok.1 h
  have hfirst : first.take ones ++ (first.drop ones ++ b :: bs) ~ first ++ b :: bs := by
    rw [← List.append_assoc, List.take_append_drop]
  refine List.Perm.trans ?_ hfirst
  dsimp only at h
  split at h
  next rest hend =>
    obtain ⟨rfl, -⟩ := Prod.mk.inj (pure_eq_ok.1 h)
    exact (ending?_perm hend).append_left _
  next rest hend =>
    obtain ⟨rfl, -⟩ := Prod.mk.inj (pure_eq_ok.1 h)
    exact (((ending?_perm hend).cons b).trans List.perm_middle.symm).append_left _
  next hdrop =>
    obtain ⟨rfl, -⟩ := Prod.mk.inj (pure_eq_ok.1 h)
    rw [hdrop]
    rfl
  next a as _ _ hdrop =>
    obtain ⟨twos, -, h⟩ := bind_eq_ok.1 h
    rw [hdrop]
    -- what is taken of the second run comes before the rest of the first
    have htaken {rest : List α} (hrest : rest ~ a :: as ++ bs.drop twos) :
        first.take ones ++ b :: bs.take twos ++ rest ~
          first.take ones ++ (a :: as ++ b :: bs) := by
      rw [List.append_assoc]
      refine List.Perm.append_left _ ?_
      calc b :: bs.take twos ++ rest ~ b :: bs.take twos ++ (a :: as ++ bs.drop twos) :=
            hrest.append_left _
        _ ~ a :: as ++ (b :: bs.take twos ++ bs.drop twos) := List.perm_append_comm_assoc ..
        _ = a :: as ++ b :: bs := congrArg (a :: as ++ b :: ·) (List.take_append_drop twos bs)
    split at h
    next rest hend =>
      obtain ⟨rfl, -⟩ := Prod.mk.inj (pure_eq_ok.1 h)
      exact htaken (ending?_perm hend)
    next =>
      obtain ⟨⟨others, _⟩, hothers, h⟩ := bind_eq_ok.1 h
      obtain ⟨rfl, -⟩ := Prod.mk.inj (pure_eq_ok.1 h)
      rw [List.append_assoc, List.singleton_append]
      exact htaken ((hagain hothers).cons a)

end

theorem mergeRest_perm {bound : Nat} {pace : Pace}
    (h : mergeRest fromBack precedes bound patience pace first second = .ok (merged, after)) :
    merged ~ first ++ second := by
  induction bound generalizing patience pace first second merged after with
  | zero => exact .of_eq (congrArg Prod.fst (Except.ok.inj h)).symm
  | succ bound ih =>
    rw [mergeRest_succ] at h
    split at h
    next rest _ hend =>
      obtain ⟨rfl, -⟩ := Prod.mk.inj (Except.ok.inj h)
      exact ending?_perm hend
    next =>
      split at h
      · exact mergeStretches_perm ih h
      · exact mergeStep_perm ih h
    next =>
      split at h
      · exact mergeStretches_perm ih h
      · exact mergeStep_perm ih h

theorem mergeRuns_perm (h : mergeRuns precedes patience first second = .ok (merged, after)) :
    merged ~ first ++ second := by
  unfold mergeRuns at h
  split at h
  next =>
    rcases second with _ | ⟨b, bs⟩
    · rw [List.append_nil]
      exact .of_eq (congrArg Prod.fst (pure_eq_ok.1 h)).symm
    obtain ⟨⟨others, _⟩, hothers, h⟩ := bind_eq_ok.1 h
    obtain ⟨rfl, -⟩ := Prod.mk.inj (pure_eq_ok.1 h)
    exact ((mergeRest_perm hothers).cons b).trans List.perm_middle.symm
  next =>
    -- items are taken from the back, and the last of the first run is the last of all
    obtain ⟨backwards, rfl⟩ : ∃ backwards : List α, first = backwards.reverse :=
      ⟨first.reverse, (List.reverse_reverse first).symm⟩
    rw [List.reverse_reverse] at h
    rcases backwards with _ | ⟨a, as⟩
    · exact .of_eq (congrArg Prod.fst (pure_eq_ok.1 h)).symm
    obtain ⟨⟨others, _⟩, hothers, h⟩ := bind_eq_ok.1 h
    obtain ⟨rfl, -⟩ := Prod.mk.inj (pure_eq_ok.1 h)
    calc (a :: others).reverse ~ a :: others := List.reverse_perm _
      _ ~ a :: as ++ second.reverse := (mergeRest_perm hothers).cons a
      _ ~ (a :: as).reverse ++ second := (List.reverse_perm _).symm.append (List.reverse_perm _)

theorem mergeNeighbours_perm
    (h : mergeNeighbours precedes patience first second = .ok (merged, after)) :
    merged ~ first ++ second := by
  rcases second with _ | ⟨least, rest⟩
  · rw [List.append_nil]
    exact .of_eq (congrArg Prod.fst (pure_eq_ok.1 h)).symm
  obtain ⟨before, -, h⟩ := bind_eq_ok.1 h
  split at h
  next => exact .of_eq (congrArg Prod.fst (pure_eq_ok.1 h)).symm
  obtain ⟨behind, -, h⟩ := bind_eq_ok.1 h
  dsimp only at h
  split at h
  next => exact .of_eq (congrArg Prod.fst (pure_eq_ok.1 h)).symm
  next =>
    generalize (least :: rest).length - behind = split at h
    obtain ⟨⟨middle, _⟩, hmiddle, h⟩ := bind_eq_ok.1 h
    obtain ⟨rfl, -⟩ := Prod.mk.inj (pure_eq_ok.1 h)
    generalize least :: rest = second at hmiddle ⊢
    calc first.take before ++ middle ++ second.drop split
      _ ~ first.take before ++ (first.drop before ++ second.take split) ++ second.drop split :=
            ((mergeRuns_perm hmiddle).append_left _).append_right _
      _ = first ++ second := by
        rw [← List.append_assoc, List.take_append_drop, List.append_assoc, List.take_append_drop]

/-! ## Runs -/

theorem runAfter_eq_ok {falling : Bool} {last : α}
    (h : runAfter precedes falling last items = .ok (run, others)) : run ++ others = items := by
  induction items generalizing last run with
  | nil =>
    obtain ⟨rfl, rfl⟩ := Prod.mk.inj (Except.ok.inj h)
    rfl
  | cons next rest ih =>
    obtain ⟨isBefore, -, h⟩ := bind_eq_ok.1 h
    split at h
    next =>
      obtain ⟨⟨others, _⟩, hothers, h⟩ := bind_eq_ok.1 h
      obtain ⟨rfl, rfl⟩ := Prod.mk.inj (pure_eq_ok.1 h)
      exact congrArg (next :: ·) (ih hothers)
    next =>
      obtain ⟨rfl, rfl⟩ := Prod.mk.inj (pure_eq_ok.1 h)
      rfl

/-- The first run and the items after it are all items, and the run has some. -/
theorem firstRun_perm {item : α} (h : firstRun precedes (item :: items) = .ok (run, others)) :
    run ++ others ~ item :: items ∧ others.length ≤ items.length := by
  rcases items with _ | ⟨second, rest⟩
  · obtain ⟨rfl, rfl⟩ := Prod.mk.inj (Except.ok.inj h)
    exact ⟨.refl _, Nat.le_refl _⟩
  obtain ⟨falling, -, h⟩ := bind_eq_ok.1 h
  obtain ⟨⟨run, _⟩, hrun, h⟩ := bind_eq_ok.1 h
  obtain ⟨rfl, rfl⟩ := Prod.mk.inj (pure_eq_ok.1 h)
  obtain rfl := runAfter_eq_ok hrun
  refine ⟨?_, by simp; omega⟩
  cases falling with
  | false => exact .refl _
  | true => exact (List.reverse_perm (item :: second :: run)).append_right _

theorem insertAll_perm {sorted : List α} (h : insertAll precedes sorted items = .ok merged) :
    merged ~ sorted ++ items := by
  induction items generalizing sorted with
  | nil => exact .of_eq (by rw [← Except.ok.inj h, List.append_nil])
  | cons item rest ih =>
    obtain ⟨longer, hlonger, h⟩ := bind_eq_ok.1 h
    obtain ⟨place, -, hlonger⟩ := bind_eq_ok.1 hlonger
    obtain rfl := pure_eq_ok.1 hlonger
    calc merged ~ sorted.take place ++ item :: sorted.drop place ++ rest := ih h
      _ ~ item :: (sorted.take place ++ sorted.drop place) ++ rest :=
        List.perm_middle.append_right _
      _ = item :: (sorted ++ rest) := by rw [List.take_append_drop, List.cons_append]
      _ ~ sorted ++ item :: rest := List.perm_middle.symm

/-! ## The pile -/

/-- Two runs on a pile are exchanged for what they are merged into. -/
theorem flatten_merged_perm {top : List α} {pile below : List (List α)}
    (hmerged : merged ~ second ++ top) (h : pile.flatten ~ (merged :: below).flatten) :
    pile.flatten ~ (top :: second :: below).flatten := by
  simp only [List.flatten_cons] at h ⊢
  calc pile.flatten ~ merged ++ below.flatten := h
    _ ~ second ++ top ++ below.flatten := hmerged.append_right _
    _ ~ top ++ second ++ below.flatten := List.perm_append_comm.append_right _
    _ = top ++ (second ++ below.flatten) := List.append_assoc ..

theorem settle_perm {all : Bool} {bound : Nat} {pile settled : List (List α)}
    (h : settle precedes all bound patience pile = .ok (after, settled)) :
    settled.flatten ~ pile.flatten := by
  induction bound generalizing patience pile with
  | zero => exact .of_eq (congrArg List.flatten (Prod.mk.inj (Except.ok.inj h)).2.symm)
  | succ bound ih =>
    match pile with
    | [] => exact .of_eq (congrArg List.flatten (Prod.mk.inj (Except.ok.inj h)).2.symm)
    | [_] => exact .of_eq (congrArg List.flatten (Prod.mk.inj (Except.ok.inj h)).2.symm)
    | [top, second] =>
      rw [settle] at h
      split at h
      next =>
        obtain ⟨⟨merged, _⟩, hmerged, h⟩ := bind_eq_ok.1 h
        obtain ⟨-, rfl⟩ := Prod.mk.inj (pure_eq_ok.1 h)
        exact flatten_merged_perm (mergeNeighbours_perm hmerged) (.refl _)
      next => exact .of_eq (congrArg List.flatten (Prod.mk.inj (pure_eq_ok.1 h)).2.symm)
    | top :: second :: third :: below =>
      rw [settle] at h
      split at h
      next =>
        split at h
        next =>
          obtain ⟨⟨merged, _⟩, hmerged, h⟩ := bind_eq_ok.1 h
          have hbelow := flatten_merged_perm (mergeNeighbours_perm hmerged)
            (.refl (merged :: below).flatten)
          exact (ih h).trans (hbelow.append_left top)
        next =>
          obtain ⟨⟨merged, _⟩, hmerged, h⟩ := bind_eq_ok.1 h
          exact flatten_merged_perm (mergeNeighbours_perm hmerged) (ih h)
      next =>
        split at h
        next =>
          obtain ⟨⟨merged, _⟩, hmerged, h⟩ := bind_eq_ok.1 h
          exact flatten_merged_perm (mergeNeighbours_perm hmerged) (ih h)
        next => exact .of_eq (congrArg List.flatten (Prod.mk.inj (pure_eq_ok.1 h)).2.symm)

/-- Each round takes a run, so that the bound is reached after the last item. -/
theorem pileUp_perm {least bound : Nat} {pile piled : List (List α)}
    (h : pileUp precedes least bound patience pile items = .ok (after, piled))
    (hbound : items.length ≤ bound) : piled.flatten ~ pile.flatten ++ items := by
  induction bound generalizing patience pile items with
  | zero =>
    obtain rfl := List.length_eq_zero_iff.1 (Nat.le_zero.1 hbound)
    rw [List.append_nil]
    exact .of_eq (congrArg List.flatten (Prod.mk.inj (Except.ok.inj h)).2.symm)
  | succ bound ih =>
    rcases items with _ | ⟨item, items⟩
    · rw [List.append_nil]
      exact .of_eq (congrArg List.flatten (Prod.mk.inj (Except.ok.inj h)).2.symm)
    obtain ⟨⟨run, others⟩, hrun, h⟩ := bind_eq_ok.1 h
    obtain ⟨hperm, hlength⟩ := firstRun_perm hrun
    obtain ⟨longer, hlonger, h⟩ := bind_eq_ok.1 h
    obtain ⟨⟨_, settled⟩, hsettled, h⟩ := bind_eq_ok.1 h
    generalize least - run.length = missing at hlonger h
    have hrest : (others.drop missing).length ≤ bound := by
      rw [List.length_drop]
      rw [List.length_cons] at hbound
      omega
    have hall : longer ++ others.drop missing ~ item :: items := by
      calc longer ++ others.drop missing
        _ ~ run ++ others.take missing ++ others.drop missing := (insertAll_perm hlonger).append_right _
        _ = run ++ others := by rw [List.append_assoc, List.take_append_drop]
        _ ~ item :: items := hperm
    calc piled.flatten ~ settled.flatten ++ others.drop missing := ih h hrest
      _ ~ longer ++ pile.flatten ++ others.drop missing := (settle_perm hsettled).append_right _
      _ ~ pile.flatten ++ longer ++ others.drop missing := List.perm_append_comm.append_right _
      _ = pile.flatten ++ (longer ++ others.drop missing) := List.append_assoc ..
      _ ~ pile.flatten ++ item :: items := hall.append_left _

/-- **The items of the result are those that were given**, whatever the comparison answers. -/
theorem sort_perm (h : sort precedes items = .ok merged) : merged ~ items := by
  obtain ⟨⟨_, piled⟩, hpiled, h⟩ := bind_eq_ok.1 h
  obtain ⟨⟨_, settled⟩, hsettled, h⟩ := bind_eq_ok.1 h
  obtain rfl := pure_eq_ok.1 h
  calc settled.flatten ~ piled.flatten := settle_perm hsettled
    _ ~ items := pileUp_perm hpiled (Nat.le_refl _)

end Sorting

end RelStore
