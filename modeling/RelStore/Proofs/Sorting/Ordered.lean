/-
Sorting puts items in order.

A comparison that answers by an order (`Orders`) is all that sorting needs: a list is cut where a
test stops to hold (`Cuts`), two runs in order are merged into one (`succeeds_mergeNeighbours`), and
of the runs on the pile one is left in the end. So the result is in order (`succeeds_sort`), also
where the comparison is an order on the items of the list only.
-/
import RelStore.Proofs.Failing
import RelStore.Proofs.Sorting.Permutation

namespace RelStore.Sorting

open scoped List

variable {α ε : Type}

/-! ## Cutting a list -/

/-- A test that holds for an item holds for all before it. -/
def Divides (holds : α → Bool) (items : List α) : Prop :=
  items.Pairwise fun a b => holds b = true → holds a = true

/-- A test holds for so many items at the front, and for no others. -/
structure Cuts (holds : α → Bool) (items : List α) (place : Nat) : Prop where
  within : place ≤ items.length
  before : ∀ a ∈ items.take place, holds a = true
  behind : ∀ a ∈ items.drop place, holds a = false

section

variable {holds : α → Bool} {test : α → Except ε Bool} {early : Bool} {items first rest : List α}
  {item : α} {place : Nat}

theorem Cuts.empty : Cuts holds [] 0 := ⟨Nat.le_refl _, nofun, nofun⟩

/-- A cut of a list that is read from the back. -/
theorem Cuts.of_reverse (h : Cuts holds items.reverse place) :
    (∀ a ∈ items.drop (items.length - place), holds a = true) ∧
      ∀ a ∈ items.take (items.length - place), holds a = false := by
  obtain ⟨-, hbefore, hbehind⟩ := h
  rw [List.take_reverse] at hbefore
  rw [List.drop_reverse] at hbehind
  exact ⟨fun a ha => hbefore a (List.mem_reverse.2 ha), fun a ha => hbehind a (List.mem_reverse.2 ha)⟩

theorem Divides.before (h : Divides holds (first ++ rest)) : Divides holds first :=
  (List.pairwise_append.1 h).1

theorem Divides.behind (h : Divides holds (first ++ item :: rest)) : Divides holds rest :=
  (List.pairwise_cons.1 (List.pairwise_append.1 h).2.1).2

/-- If the test holds for an item, the cut is behind it. -/
theorem Divides.cuts_behind (h : Divides holds (first ++ item :: rest)) (hitem : holds item = true)
    (hcut : Cuts holds rest place) : Cuts holds (first ++ item :: rest) (first.length + 1 + place) := by
  have hfirst : ∀ a ∈ first, holds a = true :=
    fun a ha => (List.pairwise_append.1 h).2.2 a ha item List.mem_cons_self hitem
  have hsplit : first ++ item :: rest = (first ++ [item]) ++ rest := by simp
  have hlength : (first ++ [item]).length = first.length + 1 := by simp
  rw [hsplit, ← hlength]
  constructor
  case within =>
    refine Nat.le_trans (Nat.add_le_add_left hcut.within _) ?_
    exact Nat.le_of_eq List.length_append.symm
  case before =>
    rw [List.take_length_add_append]
    refine List.forall_mem_append.2 ⟨List.forall_mem_append.2 ⟨hfirst, ?_⟩, hcut.before⟩
    exact List.forall_mem_singleton.2 hitem
  case behind =>
    rw [List.drop_length_add_append]
    exact hcut.behind

/-- If it does not, the cut is before it. -/
theorem Divides.cuts_before (h : Divides holds (first ++ item :: rest)) (hitem : holds item = false)
    (hcut : Cuts holds first place) : Cuts holds (first ++ item :: rest) place := by
  have hrest : ∀ a ∈ item :: rest, holds a = false := by
    refine List.forall_mem_cons.2 ⟨hitem, fun a ha => Bool.eq_false_iff.2 fun hholds => ?_⟩
    have hboth := (List.pairwise_cons.1 (List.pairwise_append.1 h).2.1).1 a ha hholds
    rw [hitem] at hboth
    cases hboth
  constructor
  case within =>
    rw [List.length_append]
    exact Nat.le_add_right_of_le hcut.within
  case before =>
    rw [List.take_append_of_le_length hcut.within]
    exact hcut.before
  case behind =>
    rw [List.drop_append_of_le_length hcut.within]
    exact List.forall_mem_append.2 ⟨hcut.behind, hrest⟩

/-- A list around the item at a place. -/
theorem split_of_drop (h : items.drop place = item :: rest) :
    items = items.take place ++ item :: rest ∧ (items.take place).length = place := by
  refine ⟨by rw [← h, List.take_append_drop], List.length_take_of_le ?_⟩
  by_contra hlt
  rw [List.drop_eq_nil_of_le (Nat.le_of_not_le hlt)] at h
  cases h

variable (htest : ∀ a, test a = .ok (holds a))

include htest

theorem succeeds_search (h : Divides holds items) :
    Succeeds (Cuts holds items) (search early test items) := by
  fun_induction search early test items with
  | case1 items hdrop =>
    obtain rfl : items = [] := by
      have hle := List.drop_eq_nil_iff.1 hdrop
      refine List.length_eq_zero_iff.1 ?_
      rw [middle] at hle
      split at hle <;> omega
    exact .ok .empty
  | case2 items item rest hdrop ihrest ihfirst =>
    obtain ⟨hsplit, hlength⟩ := split_of_drop hdrop
    generalize items.take (middle early items.length) = first at *
    subst hsplit
    rw [htest]
    cases hitem : holds item with
    | true =>
      refine (ihrest h.behind).bind fun place hplace => .pure ?_
      rw [← hlength]
      exact h.cuts_behind hitem hplace
    | false =>
      obtain ⟨place, hplace, hcut⟩ := ihfirst h.before
      exact ⟨place, hplace, h.cuts_before hitem hcut⟩

theorem succeeds_stride (bound length : Nat) (hlength : 0 < length) (h : Divides holds items) :
    Succeeds (Cuts holds items) (stride early test bound length items) := by
  induction bound generalizing length items with
  | zero => exact succeeds_search htest h
  | succ bound ih =>
    rw [stride]
    split
    next => exact succeeds_search htest h
    next item rest hdrop =>
      obtain ⟨hsplit, hfirst⟩ := split_of_drop hdrop
      generalize items.take (length - 1) = first at *
      subst hsplit
      rw [htest]
      cases hitem : holds item with
      | true =>
        refine (ih (2 * length) (by omega) h.behind).bind fun place hplace => .pure ?_
        have hcut := h.cuts_behind hitem hplace
        rwa [hfirst, Nat.sub_add_cancel hlength] at hcut
      | false =>
        obtain ⟨place, hplace, hcut⟩ : Succeeds (Cuts holds first) (search early test first) :=
          succeeds_search htest h.before
        exact ⟨place, hplace, h.cuts_before hitem hcut⟩

theorem succeeds_gallop (h : Divides holds items) :
    Succeeds (Cuts holds items) (gallop early test items) := by
  cases items with
  | nil => exact .ok .empty
  | cons item rest =>
    have hwhole : Divides holds ([] ++ item :: rest) := h
    rw [gallop, htest]
    cases hitem : holds item with
    | true =>
      refine (succeeds_stride htest _ 1 Nat.one_pos hwhole.behind).bind fun place hplace => .pure ?_
      have hcut := hwhole.cuts_behind hitem hplace
      rwa [List.length_nil, Nat.zero_add] at hcut
    | false => exact .pure (hwhole.cuts_before hitem .empty)

end

/-! ## Merging -/

/-- What stands before in a list comes before in an order. -/
abbrev InOrder (before : α → α → Bool) (items : List α) : Prop :=
  items.Pairwise fun a b => before a b = true

theorem inOrder_split {before : α → α → Bool} {items : List α} (h : InOrder before items) (place : Nat) :
    InOrder before (items.take place) ∧ InOrder before (items.drop place) ∧
      ∀ a ∈ items.take place, ∀ b ∈ items.drop place, before a b = true :=
  List.pairwise_append.1 ((List.take_append_drop place items).symm ▸ h)

/-- An item that comes before the first of a run comes before all of it. -/
theorem inOrder_cons {before : α → α → Bool} {a b : α} {rest : List α}
    (htrans : ∀ {a b c : α}, before a b = true → before b c = true → before a c = true)
    (hab : before a b = true) (h : InOrder before (b :: rest)) : InOrder before (a :: b :: rest) :=
  List.pairwise_cons.2 ⟨List.forall_mem_cons.2 ⟨hab, fun item hitem =>
    htrans hab ((List.pairwise_cons.1 h).1 item hitem)⟩, h⟩

/-- How the next of two runs is chosen: the item that is chosen comes before the other, and with it
all that stand before it in its run would be chosen. -/
structure Chooses (takesFirst : α → α → Except ε Bool) (before chosen : α → α → Bool) : Prop where
  answers (a b : α) : takesFirst a b = .ok (chosen a b)
  trans {a b c : α} : before a b = true → before b c = true → before a c = true
  first {a b : α} : chosen a b = true → before a b = true
  second {a b : α} : chosen a b = false → before b a = true
  first_mono {a b c : α} : before a b = true → chosen b c = true → chosen a c = true
  second_mono {a b c : α} : before b c = true → chosen a b = true → chosen a c = true

/-- Two runs that can be merged: both are in order, and the last item of the run that is set aside
comes after all of the other. -/
structure Mergeable (before : α → α → Bool) (fromBack : Bool) (first second : List α) : Prop where
  firstInOrder : InOrder before first
  secondInOrder : InOrder before second
  asideEndsLast : ∀ last ∈ (if fromBack then second else first).getLast?,
    ∀ item ∈ if fromBack then first else second, before item last = true

section

variable {before chosen : α → α → Bool} {fromBack : Bool} {first second first' second' rest : List α}

theorem Mergeable.suffix (h : Mergeable before fromBack first second) (hfirst : first' <:+ first)
    (hsecond : second' <:+ second) : Mergeable before fromBack first' second' := by
  have hlast {items items' : List α} (hsuffix : items' <:+ items) :
      ∀ last ∈ items'.getLast?, last ∈ items.getLast? := by
    intro last hmem
    obtain ⟨front, rfl⟩ := hsuffix
    rw [List.getLast?_append, Option.mem_def.1 hmem]
    rfl
  refine ⟨h.firstInOrder.sublist hfirst.sublist, h.secondInOrder.sublist hsecond.sublist, ?_⟩
  have haside := h.asideEndsLast
  cases fromBack with
  | false => exact fun last hmem item hitem => haside last (hlast hfirst last hmem) item (hsecond.subset hitem)
  | true => exact fun last hmem item hitem => haside last (hlast hsecond last hmem) item (hfirst.subset hitem)

/-- What is left at the end of a merge is in order. -/
theorem Mergeable.ending (h : Mergeable before fromBack first second)
    (hend : ending? fromBack first second = some rest) : InOrder before rest := by
  have hconcat {items : List α} {last : α} (hitems : InOrder before items)
      (hlast : ∀ item ∈ items, before item last = true) : InOrder before (items ++ [last]) :=
    List.pairwise_append.2 ⟨hitems, List.pairwise_singleton _ _, fun item hitem =>
      List.forall_mem_singleton.2 (hlast item hitem)⟩
  obtain ⟨hfirst, hsecond, hlast⟩ := h
  cases fromBack <;> simp only [ending?, Bool.false_eq_true, if_false, if_true] at hend hlast
  case false =>
    split at hend
    next => exact Option.some.inj hend ▸ hfirst
    next => exact Option.some.inj hend ▸ hsecond
    next last _ => exact Option.some.inj hend ▸ hconcat hsecond (hlast last rfl)
    next => cases hend
  case true =>
    split at hend
    next => exact Option.some.inj hend ▸ hsecond
    next => exact Option.some.inj hend ▸ hfirst
    next last _ => exact Option.some.inj hend ▸ hconcat hfirst (hlast last rfl)
    next => cases hend

variable {takesFirst : α → α → Except ε Bool} {a b : α} {as bs : List α} {ones twos : Nat}
  (hchooses : Chooses takesFirst before chosen)

include hchooses

theorem Chooses.divides_first (h : InOrder before first) (b : α) : Divides (chosen · b) first :=
  h.imp hchooses.first_mono

theorem Chooses.divides_second (h : InOrder before second) (a : α) :
    Divides (fun b => !chosen a b) second := by
  refine h.imp fun {b c} hbefore hnot => ?_
  rw [Bool.not_eq_true'] at hnot ⊢
  refine Bool.eq_false_iff.2 fun hchosen => ?_
  rw [hchooses.second_mono hbefore hchosen] at hnot
  cases hnot

/-- A stretch of the first run comes before all that is left. -/
theorem Chooses.inOrder_stretch (h : Mergeable before fromBack first (b :: bs))
    (hones : Cuts (chosen · b) first ones) (hrest : InOrder before rest)
    (hsubset : rest ⊆ first.drop ones ++ b :: bs) : InOrder before (first.take ones ++ rest) := by
  obtain ⟨htaken, -, hleft⟩ := inOrder_split h.firstInOrder ones
  refine List.pairwise_append.2 ⟨htaken, hrest, fun a ha item hitem => ?_⟩
  have hab := hchooses.first (hones.before a ha)
  rcases List.mem_append.1 (hsubset hitem) with hitem | hitem
  · exact hleft a ha item hitem
  · rcases List.mem_cons.1 hitem with rfl | hitem
    · exact hab
    · exact hchooses.trans hab ((List.pairwise_cons.1 h.secondInOrder).1 item hitem)

/-- So does, after it, a stretch of the second run. -/
theorem Chooses.inOrder_stretches (h : Mergeable before fromBack first (b :: bs))
    (hones : Cuts (chosen · b) first ones) (hdrop : first.drop ones = a :: as)
    (htwos : Cuts (fun b => !chosen a b) bs twos) (hrest : InOrder before rest)
    (hsubset : rest ⊆ a :: as ++ bs.drop twos) :
    InOrder before (first.take ones ++ b :: bs.take twos ++ rest) := by
  obtain ⟨htaken, -, hleft⟩ := inOrder_split h.secondInOrder (twos + 1)
  have hfirst : InOrder before (a :: as) := hdrop ▸ h.firstInOrder.sublist (List.drop_sublist _ _)
  have hbeforeA : ∀ c ∈ b :: bs.take twos, before c a = true := by
    refine List.forall_mem_cons.2 ⟨?_, fun c hc => ?_⟩
    · exact hchooses.second (hones.behind a (hdrop ▸ List.mem_cons_self))
    · exact hchooses.second (by simpa using htwos.before c hc)
  rw [List.append_assoc]
  refine hchooses.inOrder_stretch h hones (List.pairwise_append.2 ⟨htaken, hrest, ?_⟩) ?_
  · intro c hc item hitem
    rcases List.mem_append.1 (hsubset hitem) with hitem | hitem
    · rcases List.mem_cons.1 hitem with rfl | hitem
      · exact hbeforeA c hc
      · exact hchooses.trans (hbeforeA c hc) ((List.pairwise_cons.1 hfirst).1 item hitem)
    · exact hleft c hc item hitem
  · rw [hdrop]
    have hbs : bs.drop twos <+ b :: bs := (List.drop_sublist _ _).trans (List.sublist_cons_self _ _)
    refine List.append_subset.2 ⟨fun item hitem => List.mem_append_right _ ?_, fun item hitem => ?_⟩
    · exact List.cons_subset_cons b (List.take_subset twos bs) hitem
    · exact ((List.Sublist.refl (a :: as)).append hbs).subset (hsubset hitem)

section

variable {again : Nat → Pace → List α → List α → Except ε (List α × Nat)}
  (hagain : ∀ {patience pace first' second'},
    first'.length + second'.length < first.length + second.length →
    Mergeable before fromBack first' second' →
      Succeeds (fun merged => merged.1 ~ first' ++ second' ∧ InOrder before merged.1)
        (again patience pace first' second'))

include hagain

theorem succeeds_mergeStep (h : Mergeable before fromBack first second) (patience ones twos : Nat) :
    Succeeds (fun merged => InOrder before merged.1)
      (mergeStep takesFirst again first second patience ones twos) := by
  rcases first with _ | ⟨a, as⟩
  · exact .pure h.secondInOrder
  rcases second with _ | ⟨b, bs⟩
  · simp only [mergeStep, List.append_nil]
    exact .pure h.firstInOrder
  obtain ⟨hfirst, has⟩ := List.pairwise_cons.1 h.firstInOrder
  obtain ⟨hsecond, hbs⟩ := List.pairwise_cons.1 h.secondInOrder
  rw [mergeStep, hchooses.answers]
  cases hchosen : chosen a b with
  | true =>
    refine (hagain (by simp) (h.suffix (List.suffix_cons a as) List.suffix_rfl)).bind ?_
    rintro ⟨merged, _⟩ ⟨hperm, hmerged⟩
    have hab := hchooses.first hchosen
    refine .pure (List.pairwise_cons.2 ⟨fun item hitem => ?_, hmerged⟩)
    rcases List.mem_append.1 (hperm.mem_iff.1 hitem) with hitem | hitem
    · exact hfirst item hitem
    · rcases List.mem_cons.1 hitem with rfl | hitem
      · exact hab
      · exact hchooses.trans hab (hsecond item hitem)
  | false =>
    refine (hagain (by simp) (h.suffix List.suffix_rfl (List.suffix_cons b bs))).bind ?_
    rintro ⟨merged, _⟩ ⟨hperm, hmerged⟩
    have hba := hchooses.second hchosen
    refine .pure (List.pairwise_cons.2 ⟨fun item hitem => ?_, hmerged⟩)
    rcases List.mem_append.1 (hperm.mem_iff.1 hitem) with hitem | hitem
    · rcases List.mem_cons.1 hitem with rfl | hitem
      · exact hba
      · exact hchooses.trans hba (hfirst item hitem)
    · exact hsecond item hitem

theorem succeeds_mergeStretches (h : Mergeable before fromBack first second) (patience : Nat) :
    Succeeds (fun merged => InOrder before merged.1)
      (mergeStretches fromBack takesFirst again first second patience) := by
  rcases second with _ | ⟨b, bs⟩
  · exact .pure h.firstInOrder
  obtain ⟨hsecond, hbs⟩ := List.pairwise_cons.1 h.secondInOrder
  refine (succeeds_gallop (hchooses.answers · b) (hchooses.divides_first h.firstInOrder b)).bind ?_
  intro ones hones
  have hleft : Mergeable before fromBack (first.drop ones) (b :: bs) :=
    h.suffix (List.drop_suffix _ _) List.suffix_rfl
  have hstretch {rest : List α} (hrest : InOrder before rest)
      (hperm : rest ~ first.drop ones ++ b :: bs) : InOrder before (first.take ones ++ rest) :=
    hchooses.inOrder_stretch h hones hrest hperm.subset
  dsimp only
  split
  next rest hend => exact .pure (hstretch (hleft.ending hend) (ending?_perm hend))
  next rest hend =>
    have hrest := (hleft.suffix List.suffix_rfl (List.suffix_cons b bs)).ending hend
    refine .pure (hstretch (List.pairwise_cons.2 ⟨fun item hitem => ?_, hrest⟩)
      (((ending?_perm hend).cons b).trans List.perm_middle.symm))
    rcases List.mem_append.1 ((ending?_perm hend).subset hitem) with hitem | hitem
    · exact hchooses.second (hones.behind item hitem)
    · exact hsecond item hitem
  next hdrop => exact .pure (hstretch h.secondInOrder (by rw [hdrop, List.nil_append]))
  next a as _ _ hdrop =>
    have hanswers (b : α) : (takesFirst a b).map (!·) = .ok (!chosen a b) := by
      rw [hchooses.answers]
      rfl
    refine (succeeds_gallop hanswers (hchooses.divides_second hbs a)).bind fun twos htwos => ?_
    have hstretches {rest : List α} (hrest : InOrder before rest)
        (hperm : rest ~ a :: as ++ bs.drop twos) :
        InOrder before (first.take ones ++ b :: bs.take twos ++ rest) :=
      hchooses.inOrder_stretches h hones hdrop htwos hrest hperm.subset
    have hrest : Mergeable before fromBack (a :: as) (bs.drop twos) :=
      hdrop ▸ hleft.suffix List.suffix_rfl ((List.drop_suffix _ _).trans (List.suffix_cons b bs))
    split
    next rest hend => exact .pure (hstretches (hrest.ending hend) (ending?_perm hend))
    next =>
      have hlength : as.length + (bs.drop twos).length < first.length + (b :: bs).length := by
        have hones := congrArg List.length hdrop
        simp only [List.length_drop, List.length_cons] at hones ⊢
        omega
      refine (hagain hlength (hrest.suffix (List.suffix_cons a as) List.suffix_rfl)).bind ?_
      rintro ⟨merged, _⟩ ⟨hperm, hmerged⟩
      have hnext : InOrder before (a :: merged) := by
        refine List.pairwise_cons.2 ⟨fun item hitem => ?_, hmerged⟩
        rcases List.mem_append.1 (hperm.subset hitem) with hitem | hitem
        · exact (List.pairwise_cons.1 hrest.firstInOrder).1 item hitem
        · exact hchooses.first (by simpa using htwos.behind item hitem)
      refine .pure ?_
      rw [taking, List.append_assoc, List.singleton_append]
      exact hstretches hnext (hperm.cons a)

end

theorem succeeds_mergeRest (bound : Nat) (h : Mergeable before fromBack first second)
    (hbound : first.length + second.length ≤ bound) (patience : Nat) (pace : Pace) :
    Succeeds (fun merged => InOrder before merged.1)
      (mergeRest fromBack takesFirst bound patience pace first second) := by
  induction bound generalizing first second patience pace with
  | zero =>
    obtain rfl : second = [] := List.length_eq_zero_iff.1 (by omega)
    rw [mergeRest, List.append_nil]
    exact .ok h.firstInOrder
  | succ bound ih =>
    have hagain {patience : Nat} {pace : Pace} {first' second' : List α}
        (hlength : first'.length + second'.length < first.length + second.length)
        (h : Mergeable before fromBack first' second') :
        Succeeds (fun merged => merged.1 ~ first' ++ second' ∧ InOrder before merged.1)
          (mergeRest fromBack takesFirst bound patience pace first' second') := by
      obtain ⟨merged, hmerged, horder⟩ := ih h (by omega) patience pace
      exact ⟨merged, hmerged, mergeRest_perm hmerged, horder⟩
    rw [mergeRest_succ]
    split
    next rest _ hend => exact .ok (h.ending hend)
    next =>
      split
      · exact succeeds_mergeStretches hchooses hagain h _
      · exact succeeds_mergeStep hchooses hagain h _ _ _
    next =>
      split
      · exact succeeds_mergeStretches hchooses hagain h _
      · exact succeeds_mergeStep hchooses hagain h _ _ _

end

/-! ## Comparisons that answer by an order -/

/-- A comparison answers by an order: an item precedes another if the other does not come before it
or stands beside it. -/
structure Orders (precedes : α → α → Except ε Bool) (le : α → α → Bool) : Prop where
  answers (a b : α) : precedes a b = .ok (!le b a)
  trans {a b c : α} : le a b = true → le b c = true → le a c = true
  total (a b : α) : le a b = true ∨ le b a = true

section

variable {precedes : α → α → Except ε Bool} {le : α → α → Bool} (horders : Orders precedes le)
  {items first second sorted : List α}

include horders

theorem Orders.of_not {a b : α} (h : le a b = false) : le b a = true :=
  (horders.total a b).resolve_left (by simp [h])

/-- The last item comes after all. -/
theorem Orders.getLast?_last {last : α} (h : InOrder le items) (hlast : items.getLast? = some last) :
    ∀ a ∈ items, le a last = true := by
  obtain ⟨front, rfl⟩ := List.getLast?_eq_some_iff.1 hlast
  refine List.forall_mem_append.2 ⟨fun a ha => ?_, List.forall_mem_singleton.2 ?_⟩
  · exact (List.pairwise_append.1 h).2.2 a ha last (List.mem_singleton_self _)
  · exact (horders.total last last).elim id id

/-- Whether an item does not precede another. -/
theorem Orders.not_precedes (a b : α) : (precedes a b).map (!·) = .ok (le b a) := by
  rw [horders.answers, Except.map, Bool.not_not]

/-- From the front, the first run gives its item unless that of the second precedes it. -/
theorem Orders.chooses : Chooses (fun a b => (precedes b a).map (!·)) le le where
  answers a b := horders.not_precedes b a
  trans := horders.trans
  first h := h
  second h := horders.of_not h
  first_mono := horders.trans
  second_mono hbc hab := horders.trans hab hbc

/-- From the back, the first run gives its item if that of the second precedes it. -/
theorem Orders.chooses_back :
    Chooses (fun a b => precedes b a) (fun a b => le b a) fun a b => !le a b where
  answers a b := horders.answers b a
  trans hab hbc := horders.trans hbc hab
  first h := horders.of_not (by simpa using h)
  second h := by simpa using h
  first_mono hab hbc := by
    rw [Bool.not_eq_true'] at hbc ⊢
    refine Bool.eq_false_iff.2 fun hac => ?_
    rw [horders.trans hab hac] at hbc
    cases hbc
  second_mono hbc hab := by
    rw [Bool.not_eq_true'] at hab ⊢
    refine Bool.eq_false_iff.2 fun hac => ?_
    rw [horders.trans hac hbc] at hab
    cases hab

theorem Orders.succeeds_mergeRuns (hfirst : InOrder le first) (hsecond : InOrder le second)
    (hleast : ∀ least ∈ second.head?, ∀ a ∈ first, le least a = true)
    (hgreatest : ∀ greatest ∈ first.getLast?, ∀ b ∈ second, le b greatest = true) (patience : Nat) :
    Succeeds (fun merged => InOrder le merged.1) (mergeRuns precedes patience first second) := by
  unfold mergeRuns
  split
  next =>
    rcases second with _ | ⟨b, bs⟩
    · exact .pure hfirst
    obtain ⟨hb, hbs⟩ := List.pairwise_cons.1 hsecond
    have hrest : Mergeable le false first bs :=
      ⟨hfirst, hbs, fun last hlast item hitem => hgreatest last hlast item (List.mem_cons_of_mem _ hitem)⟩
    obtain ⟨⟨merged, after⟩, hmerged, horder⟩ :=
      succeeds_mergeRest horders.chooses (first.length + (b :: bs).length) hrest
        (by rw [List.length_cons]; omega) patience (.stepping 0 0)
    refine ⟨_, bind_eq_ok.2 ⟨_, hmerged, rfl⟩, List.pairwise_cons.2 ⟨fun item hitem => ?_, horder⟩⟩
    rcases List.mem_append.1 ((mergeRest_perm hmerged).subset hitem) with hitem | hitem
    · exact hleast b rfl item hitem
    · exact hb item hitem
  next =>
    obtain ⟨backwards, rfl⟩ : ∃ backwards : List α, first = backwards.reverse :=
      ⟨first.reverse, (List.reverse_reverse first).symm⟩
    rw [List.reverse_reverse]
    rcases backwards with _ | ⟨a, as⟩
    · exact .pure hsecond
    obtain ⟨ha, has⟩ := List.pairwise_cons.1 (List.pairwise_reverse.1 hfirst)
    have hlast : ∀ item ∈ second.reverse, le item a = true := fun item hitem =>
      hgreatest a (by simp) item (List.mem_reverse.1 hitem)
    have hrest : Mergeable (fun a b => le b a) true as second.reverse := by
      refine ⟨has, List.pairwise_reverse.2 hsecond, fun last hmem item hitem => ?_⟩
      rw [if_pos rfl, List.getLast?_reverse] at hmem
      exact hleast last hmem item (List.mem_reverse.2 (List.mem_cons_of_mem a hitem))
    obtain ⟨⟨merged, after⟩, hmerged, horder⟩ :=
      succeeds_mergeRest horders.chooses_back ((a :: as).reverse.length + second.length) hrest
        (by simp) patience (.stepping 0 0)
    refine ⟨_, bind_eq_ok.2 ⟨_, hmerged, rfl⟩, List.pairwise_reverse.2 (List.pairwise_cons.2 ⟨?_, horder⟩)⟩
    intro item hitem
    rcases List.mem_append.1 ((mergeRest_perm hmerged).subset hitem) with hitem | hitem
    · exact ha item hitem
    · exact hlast item hitem

/-- Where a second run ends behind the greatest item of the first, what is behind stays there. -/
theorem Orders.succeeds_mergeRuns_take {greatest : α} {place : Nat} (hfirst : InOrder le first)
    (hsecond : InOrder le second) (hleast : ∀ least ∈ second.head?, ∀ a ∈ first, le least a = true)
    (hgreatest : first.getLast? = some greatest)
    (hinside : ∀ b ∈ second.take place, le b greatest = true)
    (hbehind : ∀ b ∈ second.drop place, le greatest b = true) (hplace : place ≠ 0) (patience : Nat) :
    Succeeds (fun merged => merged.1 ~ first ++ second.take place ∧
        InOrder le (merged.1 ++ second.drop place))
      (mergeRuns precedes patience first (second.take place)) := by
  obtain ⟨htake, hdrop, hleave⟩ := inOrder_split hsecond place
  obtain ⟨⟨merged, after⟩, hmerged, horder⟩ := horders.succeeds_mergeRuns hfirst htake
    (fun least hmem => hleast least (by rwa [List.head?_take, if_neg hplace] at hmem))
    (fun last hmem => by
      obtain rfl := Option.some.inj (hgreatest.symm.trans hmem)
      exact hinside) patience
  have hperm := mergeRuns_perm hmerged
  refine ⟨_, hmerged, hperm, List.pairwise_append.2 ⟨horder, hdrop, fun a ha b hb => ?_⟩⟩
  rcases List.mem_append.1 (hperm.subset ha) with ha | ha
  · exact horders.trans (horders.getLast?_last hfirst hgreatest a ha) (hbehind b hb)
  · exact hleave a ha b hb

theorem Orders.succeeds_mergeNeighbours (hfirst : InOrder le first) (hsecond : InOrder le second)
    (patience : Nat) :
    Succeeds (fun merged => InOrder le merged.1) (mergeNeighbours precedes patience first second) := by
  rcases second with _ | ⟨least, rest⟩
  · exact .pure hfirst
  have hdivides : Divides (le · least) first := hfirst.imp fun hab hb => horders.trans hab hb
  rw [mergeNeighbours]
  refine (succeeds_gallop (horders.not_precedes least) hdivides).bind fun before hbefore => ?_
  -- what stands before the least item of the second run stays where it is
  obtain ⟨htake, hdrop, hleave⟩ := inOrder_split hfirst before
  have hfront : ∀ a ∈ first.take before, ∀ b ∈ least :: rest, le a b = true := by
    intro a ha b hb
    rcases List.mem_cons.1 hb with rfl | hb
    · exact hbefore.before a ha
    · exact horders.trans (hbefore.before a ha) ((List.pairwise_cons.1 hsecond).1 b hb)
  have hmiddle : ∀ a ∈ first.drop before, le least a = true :=
    fun a ha => horders.of_not (hbefore.behind a ha)
  split
  next hnone =>
    rw [List.getLast?_eq_none_iff] at hnone
    refine .pure (List.pairwise_append.2 ⟨hfirst, hsecond, fun a ha => hfront a ?_⟩)
    rwa [← List.take_append_drop before first, hnone, List.append_nil] at ha
  next greatest hgreatest =>
    have hback : Divides (le greatest ·) (least :: rest).reverse :=
      (List.pairwise_reverse.2 hsecond).imp fun hba hb => horders.trans hb hba
    refine (succeeds_gallop (horders.not_precedes · greatest) hback).bind fun after hafter => ?_
    obtain ⟨hbehind, hinside⟩ := hafter.of_reverse
    dsimp only
    generalize (least :: rest).length - after = place at hbehind hinside ⊢
    split
    next hzero =>
      rw [hzero, List.drop_zero] at hbehind
      refine .pure (List.pairwise_append.2 ⟨hfirst, hsecond, fun a ha b hb => ?_⟩)
      rw [← List.take_append_drop before first] at ha
      rcases List.mem_append.1 ha with ha | ha
      · exact hfront a ha b hb
      · exact horders.trans (horders.getLast?_last hdrop hgreatest a ha) (hbehind b hb)
    next hplace =>
      refine (horders.succeeds_mergeRuns_take hdrop hsecond
        (fun b hb => Option.some.inj hb ▸ hmiddle) hgreatest
        (fun b hb => horders.of_not (hinside b hb)) hbehind hplace patience).bind ?_
      rintro ⟨merged, _⟩ ⟨hperm, horder⟩
      refine .pure ?_
      rw [List.append_assoc]
      refine List.pairwise_append.2 ⟨htake, horder, fun a ha item hitem => ?_⟩
      rcases List.mem_append.1 hitem with hitem | hitem
      · rcases List.mem_append.1 (hperm.subset hitem) with hitem | hitem
        · exact hleave a ha item hitem
        · exact hfront a ha item (List.mem_of_mem_take hitem)
      · exact hfront a ha item (List.mem_of_mem_drop hitem)

/-! ## Runs -/

/-- A rising run goes on as long as no item precedes the one before it. -/
theorem Orders.succeeds_runAfter_rising (last : α) (items : List α) :
    Succeeds (fun parts => InOrder le (last :: parts.1)) (runAfter precedes false last items) := by
  induction items generalizing last with
  | nil => exact .ok (List.pairwise_singleton _ _)
  | cons next rest ih =>
    rw [runAfter, horders.answers]
    cases hnext : le last next with
    | false => exact .pure (List.pairwise_singleton _ _)
    | true =>
      exact (ih next).bind fun _ hrun => .pure (inOrder_cons horders.trans hnext hrun)

/-- A falling one goes on as long as each item precedes the one before it. -/
theorem Orders.succeeds_runAfter_falling (last : α) (items : List α) :
    Succeeds (fun parts => InOrder (fun a b => le b a) (last :: parts.1))
      (runAfter precedes true last items) := by
  induction items generalizing last with
  | nil => exact .ok (List.pairwise_singleton _ _)
  | cons next rest ih =>
    rw [runAfter, horders.answers]
    cases hnext : le last next with
    | true => exact .pure (List.pairwise_singleton _ _)
    | false =>
      refine (ih next).bind fun _ hrun => .pure ?_
      exact inOrder_cons (fun hab hbc => horders.trans hbc hab) (horders.of_not hnext) hrun

theorem Orders.succeeds_firstRun (items : List α) :
    Succeeds (fun parts => InOrder le parts.1) (firstRun precedes items) := by
  match items with
  | [] => exact .ok .nil
  | [item] => exact .ok (List.pairwise_singleton _ _)
  | first :: second :: rest =>
    rw [firstRun, horders.answers]
    cases hfirst : le first second with
    | true =>
      exact (horders.succeeds_runAfter_rising second rest).bind fun _ hrun =>
        .pure (inOrder_cons horders.trans hfirst hrun)
    | false =>
      refine (horders.succeeds_runAfter_falling second rest).bind fun _ hrun => .pure ?_
      refine List.pairwise_reverse.2 ?_
      exact inOrder_cons (fun hab hbc => horders.trans hbc hab) (horders.of_not hfirst) hrun

theorem Orders.succeeds_insert (item : α) (h : InOrder le sorted) :
    Succeeds (InOrder le) (insert precedes item sorted) := by
  have hdivides : Divides (le · item) sorted := h.imp fun hab hb => horders.trans hab hb
  refine (succeeds_search (horders.not_precedes item) hdivides).bind fun place hplace => .pure ?_
  obtain ⟨htake, hdrop, hleave⟩ := inOrder_split h place
  have hbehind : ∀ a ∈ sorted.drop place, le item a = true :=
    fun a ha => horders.of_not (hplace.behind a ha)
  refine List.pairwise_append.2 ⟨htake, List.pairwise_cons.2 ⟨hbehind, hdrop⟩, fun a ha => ?_⟩
  exact List.forall_mem_cons.2 ⟨hplace.before a ha, hleave a ha⟩

theorem Orders.succeeds_insertAll (h : InOrder le sorted) (items : List α) :
    Succeeds (InOrder le) (insertAll precedes sorted items) := by
  induction items generalizing sorted with
  | nil => exact .ok h
  | cons item rest ih => exact (horders.succeeds_insert item h).bind fun _ hlonger => ih hlonger

/-! ## The pile -/

/-- The runs on a pile are in order. If all are to be merged, there is one at most in the end. -/
theorem Orders.succeeds_settle (all : Bool) (bound patience : Nat) {pile : List (List α)}
    (h : ∀ run ∈ pile, InOrder le run) (hbound : pile.length ≤ bound) :
    Succeeds (fun settled => (∀ run ∈ settled.2, InOrder le run) ∧ (all = true → settled.2.length ≤ 1))
      (settle precedes all bound patience pile) := by
  induction bound generalizing patience pile with
  | zero =>
    obtain rfl := List.length_eq_zero_iff.1 (Nat.le_zero.1 hbound)
    exact .ok ⟨h, fun _ => Nat.zero_le _⟩
  | succ bound ih =>
    rcases pile with _ | ⟨top, _ | ⟨second, _ | ⟨third, below⟩⟩⟩
    · exact .ok ⟨h, fun _ => Nat.zero_le _⟩
    · exact .ok ⟨h, fun _ => Nat.le_refl _⟩
    -- two runs are merged if all are to be
    · obtain ⟨htop, hrest⟩ := List.forall_mem_cons.1 h
      rw [settle]
      split
      next =>
        refine (horders.succeeds_mergeNeighbours (hrest second (List.mem_singleton_self _)) htop
          patience).bind fun _ hmerged => ?_
        exact .pure ⟨List.forall_mem_singleton.2 hmerged, fun _ => Nat.le_refl _⟩
      next hno =>
        refine .pure ⟨h, fun hall => ?_⟩
        rw [hall] at hno
        exact absurd rfl hno
    -- of three, the second goes to the shorter of the other two
    · obtain ⟨htop, hrest⟩ := List.forall_mem_cons.1 h
      obtain ⟨hsecond, hrest⟩ := List.forall_mem_cons.1 hrest
      obtain ⟨hthird, hbelow⟩ := List.forall_mem_cons.1 hrest
      have hless {run other : List α} : (run :: other :: below).length ≤ bound := by
        simp only [List.length_cons] at hbound ⊢
        omega
      have htopMerged := (horders.succeeds_mergeNeighbours hsecond htop patience).bind
        fun merged hmerged => ih merged.2
          (List.forall_mem_cons.2 ⟨hmerged, List.forall_mem_cons.2 ⟨hthird, hbelow⟩⟩) hless
      have hthirdMerged := (horders.succeeds_mergeNeighbours hthird hsecond patience).bind
        fun merged hmerged => ih merged.2
          (List.forall_mem_cons.2 ⟨htop, List.forall_mem_cons.2 ⟨hmerged, hbelow⟩⟩) hless
      rw [settle]
      split
      next =>
        split
        · exact hthirdMerged
        · exact htopMerged
      next hno =>
        split
        · exact htopMerged
        · refine .pure ⟨h, fun hall => ?_⟩
          rw [hall] at hno
          exact absurd rfl hno

theorem Orders.succeeds_pileUp (least bound patience : Nat) {pile : List (List α)} (items : List α)
    (h : ∀ run ∈ pile, InOrder le run) :
    Succeeds (fun piled => ∀ run ∈ piled.2, InOrder le run)
      (pileUp precedes least bound patience pile items) := by
  induction bound generalizing patience pile items with
  | zero => exact .ok h
  | succ bound ih =>
    rcases items with _ | ⟨item, items⟩
    · exact .ok h
    refine (horders.succeeds_firstRun (item :: items)).bind fun ⟨run, others⟩ hrun => ?_
    refine (horders.succeeds_insertAll hrun _).bind fun longer hlonger => ?_
    refine (horders.succeeds_settle false _ patience (List.forall_mem_cons.2 ⟨hlonger, h⟩)
      (Nat.le_refl _)).bind fun ⟨_, settled⟩ hsettled => ih _ _ hsettled.1

/-- **A comparison that answers by an order is answered with the items in this order.** -/
theorem Orders.succeeds_sort (items : List α) : Succeeds (InOrder le) (sort precedes items) := by
  refine (horders.succeeds_pileUp _ _ _ items (List.forall_mem_nil _)).bind ?_
  rintro ⟨patience, piled⟩ hpiled
  refine (horders.succeeds_settle true _ patience hpiled (Nat.le_refl _)).bind ?_
  rintro ⟨_, settled⟩ ⟨horder, hone⟩
  refine .pure ?_
  rcases settled with _ | ⟨run, _ | ⟨other, rest⟩⟩
  · exact .nil
  · simpa using horder
  · have hlength := hone rfl
    simp at hlength

end

/-- **So it is where the comparison answers by an order on the items that are sorted.** -/
theorem succeeds_sort_of_mem {precedes : α → α → Except ε Bool} {le : α → α → Bool} {items : List α}
    (hanswers : ∀ a ∈ items, ∀ b ∈ items, precedes a b = .ok (!le b a))
    (htrans : ∀ a ∈ items, ∀ b ∈ items, ∀ c ∈ items, le a b = true → le b c = true → le a c = true)
    (htotal : ∀ a ∈ items, ∀ b ∈ items, le a b = true ∨ le b a = true) :
    Succeeds (InOrder le) (sort precedes items) := by
  have horders : Orders (fun a b : {a // a ∈ items} => precedes a.1 b.1) fun a b => le a.1 b.1 := by
    constructor
    case answers => exact fun a b => hanswers a.1 a.2 b.1 b.2
    case trans => exact fun {a b c} => htrans a.1 a.2 b.1 b.2 c.1 c.2
    case total => exact fun a b => htotal a.1 a.2 b.1 b.2
  rw [← List.attach_map_subtype_val items, sort_map]
  exact (horders.succeeds_sort items.attach).map fun sorted hsorted => List.pairwise_map.2 hsorted

end RelStore.Sorting
