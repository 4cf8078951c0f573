/-
ORDER BY sorts.

Of two values that are not NULL the order is that of their family, turned round for DESC, and NULL
comes after all of them either way (`Value.ComesBefore`). Entries are in the order of the first key
that tells them apart, and those that no key tells apart are in the order in which they were given.
Where the values of each key are of one family and none is `nan`, this is a strict order of all
entries, so that there is one way to put them in this order (`SortedStably.unique`), and it is what
sorting gives (`sortItems_sortedStably`).
-/
import Mathlib.Data.List.Nodup
import RelStore.Proofs.Alike
import RelStore.Proofs.Query.Ordering
import RelStore.Proofs.Sorting.Ordered
import RelStore.Proofs.Text.Order

namespace RelStore

open Sql (Direction)
open Std (OrientedCmp ReflCmp TransCmp)
open scoped List

/-- What a comparison of two says, in an order and by what stands side by side in it. -/
structure Tells {α : Type} (before beside : α → α → Prop) (a b : α) (order : Ordering) : Prop where
  lt : order = .lt ↔ before a b
  eq : order = .eq ↔ beside a b
  gt : order = .gt ↔ before b a

/-! ## Scalars -/

namespace Scalar

/-- A smaller number, an earlier text, or false before true. -/
def Less : Scalar → Scalar → Prop
  | .number a, .number b => a.lt b = true
  | .text s, .text t => Text.lt s t = true
  | .bool a, .bool b => a = false ∧ b = true
  | _, _ => False

variable {a b c : Scalar}

theorem Less.trans (h : a.Less b) (h' : b.Less c) : a.Less c := by
  match a, b, c with
  | .number (.signed _ _), .number (.signed _ _), .number (.signed _ _) =>
    simp only [Less, Binary64.lt, decide_eq_true_eq] at h h' ⊢
    exact Int.lt_trans h h'
  | .text _, .text _, .text _ =>
    simp only [Less, Text.lt, beq_iff_eq] at h h' ⊢
    exact TransCmp.lt_trans h h'
  | .bool _, .bool _, .bool _ => exact ⟨h.1, h'.2⟩

theorem Less.irrefl (a : Scalar) : ¬ a.Less a := by
  intro h
  match a with
  | .number n =>
    rw [Less, Binary64.lt_irrefl] at h
    cases h
  | .text s =>
    have hself : Text.order s s = .eq := ReflCmp.compare_self
    rw [Less, Text.lt, hself] at h
    cases h
  | .bool b =>
    obtain ⟨rfl, h⟩ := h
    cases h

/-- Two scalars of a family are compared. -/
theorem tells_compare? (h : a.family = b.family) (ha : a ≠ .number .nan) (hb : b ≠ .number .nan) :
    ∃ order, a.compare? b = some order ∧ Tells Less Scalar.Alike a b order := by
  match a, b with
  | .number (.signed s m), .number (.signed t n) =>
    refine ⟨_, rfl, ?_⟩
    have hplaces (x y : Int) : Tells (· < ·) (· = ·) x y
        (if x == y then .eq else if x < y then .lt else .gt) := by
      rcases Int.lt_trichotomy x y with hlt | rfl | hgt
      · constructor <;> simp [hlt, Int.ne_of_lt hlt, Int.not_lt.2 (Int.le_of_lt hlt)]
      · constructor <;> simp
      · constructor <;> simp [hgt, Int.ne_of_gt hgt, Int.not_lt.2 (Int.le_of_lt hgt)]
    obtain ⟨hlt, heq, hgt⟩ := hplaces (Binary64.place s m) (Binary64.place t n)
    constructor
    case lt => simpa only [Less, Binary64.eq, Binary64.lt, decide_eq_true_eq] using hlt
    case eq => simpa only [Scalar.Alike, Value.Alike, Value.key, Binary64.eq, Binary64.lt,
      decide_eq_true_eq, Key.number.injEq] using heq
    case gt => simpa only [Less, Binary64.eq, Binary64.lt, decide_eq_true_eq] using hgt
  | .text s, .text t =>
    refine ⟨_, rfl, ?_⟩
    constructor
    case lt => simp [Less, Text.lt]
    case eq =>
      simp only [Scalar.Alike, Value.Alike, Value.key, Key.text.injEq]
      refine ⟨Text.eq_of_order_eq, ?_⟩
      rintro rfl
      exact ReflCmp.compare_self
    case gt =>
      simp only [Less, Text.lt, beq_iff_eq]
      exact OrientedCmp.gt_iff_lt
  | .bool x, .bool y =>
    refine ⟨_, rfl, ?_⟩
    cases x <;> cases y <;> constructor <;> simp [Less, Scalar.Alike, Value.Alike, Value.key]

end Scalar

/-! ## Values -/

namespace Value

/-- A value comes before another in a direction: NULL comes after all others. -/
def ComesBefore (direction : Direction) : Value → Value → Prop
  | some a, some b => match direction with
    | .asc => a.Less b
    | .desc => b.Less a
  | some _, none => True
  | none, _ => False

/-- A value that can be sorted by: NULL, or a scalar of the family that is not `nan`. -/
structure Orderly (family : Family) (v : Value) : Prop where
  fits : v.Fits family
  ne_nan : v ≠ some (.number .nan)

instance (family : Family) (v : Value) : Decidable (v.Orderly family) :=
  decidable_of_iff ((∀ s ∈ v, s.family = family) ∧ v ≠ some (.number .nan))
    ⟨fun h => ⟨h.1, h.2⟩, fun h => ⟨h.fits, h.ne_nan⟩⟩

variable {direction : Direction} {u v w : Value} {family : Family}

theorem ComesBefore.trans (h : ComesBefore direction u v) (h' : ComesBefore direction v w) :
    ComesBefore direction u w := by
  rcases u with _ | a
  · exact h.elim
  rcases v with _ | b
  · exact h'.elim
  rcases w with _ | c
  · trivial
  cases direction with
  | asc => exact Scalar.Less.trans h h'
  | desc => exact Scalar.Less.trans h' h

theorem ComesBefore.irrefl (direction : Direction) (v : Value) : ¬ ComesBefore direction v v := by
  cases v with
  | none => exact id
  | some a => cases direction <;> exact Scalar.Less.irrefl a

/-- Zero comes where it comes with either sign. -/
theorem comesBefore_congr {v' w' : Value} (h : v.Alike v') (h' : w.Alike w') :
    ComesBefore direction v w = ComesBefore direction v' w' := by
  refine (h.congr (ComesBefore direction · w) ?_).trans (h'.congr (ComesBefore direction v' ·) ?_)
  · rcases w with _ | ⟨_ | _⟩ | _ | _ <;> cases direction <;> rfl
  · rcases v' with _ | ⟨_ | _⟩ | _ | _ <;> cases direction <;> rfl

/-- Two values of a family are compared. -/
theorem tells_compareSort (hv : v.Orderly family) (hw : w.Orderly family) :
    ∃ order, compareSort direction v w = .ok order ∧
      Tells (ComesBefore direction) Value.Alike v w order := by
  match v, w with
  | none, none => exact ⟨.eq, rfl, by constructor <;> simp [ComesBefore, Alike]⟩
  | none, some b =>
    have hne : ¬ Value.Alike none (some b) := fun h => by cases h.eq_none_iff.1 rfl
    exact ⟨.gt, rfl, by constructor <;> simp [ComesBefore, hne]⟩
  | some a, none =>
    have hne : ¬ Value.Alike (some a) none := fun h => by cases h.eq_none_iff.2 rfl
    exact ⟨.lt, rfl, by constructor <;> simp [ComesBefore, hne]⟩
  | some a, some b =>
    obtain ⟨order, horder, hlt, heq, hgt⟩ := Scalar.tells_compare?
      ((hv.fits a rfl).trans (hw.fits b rfl).symm) (fun h => hv.ne_nan (congrArg some h))
      fun h => hw.ne_nan (congrArg some h)
    rw [compareSort, horder]
    refine ⟨_, rfl, ?_⟩
    cases direction with
    | asc => exact ⟨hlt, heq, hgt⟩
    | desc =>
      exact ⟨Ordering.swap_eq_lt.trans hgt, Ordering.swap_eq_eq.trans heq, Ordering.swap_eq_gt.trans hlt⟩

end Value

/-! ## Keys -/

/-- What entries are sorted by: a value that each has, and a direction. -/
structure SortBy (α : Type) where
  direction : Direction
  valueOf : α → Value

namespace SortBy

variable {α : Type} {keys : List (SortBy α)} {entries : List α} {a b c : α}

/-- The values of each key are of one family, and none is `nan`. -/
def Admits (keys : List (SortBy α)) (entries : List α) : Prop :=
  ∀ key ∈ keys, ∃ family, ∀ entry ∈ entries, (key.valueOf entry).Orderly family

/-- The first key that tells two entries apart puts one before the other. -/
def Before : List (SortBy α) → α → α → Prop
  | [], _, _ => False
  | key :: keys, a, b => Value.ComesBefore key.direction (key.valueOf a) (key.valueOf b) ∨
      (key.valueOf a).Alike (key.valueOf b) ∧ Before keys a b

/-- No key tells two entries apart. -/
def Tied (keys : List (SortBy α)) (a b : α) : Prop :=
  ∀ key ∈ keys, (key.valueOf a).Alike (key.valueOf b)

theorem Tied.trans (h : Tied keys a b) (h' : Tied keys b c) : Tied keys a c :=
  fun key hkey => (h key hkey).trans (h' key hkey)

theorem Tied.symm (h : Tied keys a b) : Tied keys b a := fun key hkey => (h key hkey).symm

theorem before_congr {a' b' : α} (h : Tied keys a a') (h' : Tied keys b b') :
    Before keys a b ↔ Before keys a' b' := by
  induction keys with
  | nil => rfl
  | cons key keys ih =>
    obtain ⟨ha, hrest⟩ := List.forall_mem_cons.1 h
    obtain ⟨hb, hrest'⟩ := List.forall_mem_cons.1 h'
    rw [Before, Before, Value.comesBefore_congr ha hb, ih hrest hrest']
    exact or_congr_right (and_congr_left fun _ =>
      ⟨fun hab => ha.symm.trans (hab.trans hb), fun hab => ha.trans (hab.trans hb.symm)⟩)

theorem Before.trans (h : Before keys a b) (h' : Before keys b c) : Before keys a c := by
  induction keys with
  | nil => exact h.elim
  | cons key keys ih =>
    rcases h with hab | ⟨hab, h⟩ <;> rcases h' with hbc | ⟨hbc, h'⟩
    · exact .inl (hab.trans hbc)
    · exact .inl (Value.comesBefore_congr (.refl _) hbc ▸ hab)
    · exact .inl (Value.comesBefore_congr hab (.refl _) ▸ hbc)
    · exact .inr ⟨hab.trans hbc, ih h h'⟩

theorem Before.irrefl (keys : List (SortBy α)) (a : α) : ¬ Before keys a a := by
  induction keys with
  | nil => exact id
  | cons key keys ih => exact fun h => h.elim (Value.ComesBefore.irrefl _ _) fun h => ih h.2

/-- The values of an entry. -/
def values (keys : List (SortBy α)) (entry : α) : List Value := keys.map (·.valueOf entry)

/-- Two entries are compared by their values. -/
theorem tells_compareKeys (h : Admits keys entries) (ha : a ∈ entries) (hb : b ∈ entries) :
    ∃ order, compareKeys (keys.map (·.direction)) (values keys a) (values keys b) = .ok order ∧
      Tells (Before keys) (Tied keys) a b order := by
  induction keys with
  | nil => exact ⟨.eq, rfl, by constructor <;> simp [Before, Tied]⟩
  | cons key keys ih =>
    obtain ⟨⟨family, hfamily⟩, hrest⟩ := List.forall_mem_cons.1 h
    obtain ⟨order, horder, hlt, heq, hgt⟩ :
        ∃ order, compareSort key.direction (key.valueOf a) (key.valueOf b) = .ok order ∧
          Tells (Value.ComesBefore key.direction) Value.Alike (key.valueOf a) (key.valueOf b) order :=
      Value.tells_compareSort (hfamily a ha) (hfamily b hb)
    have hcompared : compareKeys ((key :: keys).map (·.direction)) (values (key :: keys) a)
        (values (key :: keys) b) =
        if order = .eq then compareKeys (keys.map (·.direction)) (values keys a) (values keys b)
        else .ok order := by
      simp only [values, List.map_cons, compareKeys, horder]
      cases order <;> rfl
    have hsymm : (key.valueOf b).Alike (key.valueOf a) ↔ (key.valueOf a).Alike (key.valueOf b) :=
      ⟨.symm, .symm⟩
    rw [hcompared]
    cases order with
    | lt => exact ⟨.lt, rfl, by constructor <;> simp [Before, Tied, hsymm, ← hlt, ← heq, ← hgt]⟩
    | gt => exact ⟨.gt, rfl, by constructor <;> simp [Before, Tied, hsymm, ← hlt, ← heq, ← hgt]⟩
    | eq =>
      -- the key does not tell the entries apart, and the others decide
      obtain ⟨order, hrest, htells⟩ := ih hrest
      refine ⟨order, hrest, ?_⟩
      constructor
      case lt => simpa [Before, ← hlt, ← heq] using htells.lt
      case eq => simpa [Tied, ← heq] using htells.eq
      case gt => simpa [Before, hsymm, ← hgt, ← heq] using htells.gt

/-- What comes before an entry among entries that are numbered as they come. -/
def StablyBefore (keys : List (SortBy α)) (a b : α × Nat) : Prop :=
  Before keys a.1 b.1 ∨ Tied keys a.1 b.1 ∧ a.2 < b.2

theorem StablyBefore.trans {a b c : α × Nat} (h : StablyBefore keys a b) (h' : StablyBefore keys b c) :
    StablyBefore keys a c := by
  have hrefl (a : α) : Tied keys a a := fun key _ => .refl _
  rcases h with hab | ⟨hab, hlt⟩ <;> rcases h' with hbc | ⟨hbc, hlt'⟩
  · exact .inl (hab.trans hbc)
  · exact .inl ((before_congr (hrefl _) hbc).1 hab)
  · exact .inl ((before_congr hab (hrefl _)).2 hbc)
  · exact .inr ⟨hab.trans hbc, Nat.lt_trans hlt hlt'⟩

theorem StablyBefore.irrefl (keys : List (SortBy α)) (a : α × Nat) : ¬ StablyBefore keys a a :=
  fun h => h.elim (Before.irrefl keys a.1) fun h => Nat.lt_irrefl _ h.2

/-- An entry as it is sorted. -/
def sortable (keys : List (SortBy α)) (placed : α × Nat) : Sortable α :=
  ⟨placed.1, values keys placed.1, placed.2⟩

/-- An entry comes before another or after it, unless it is the same. -/
theorem stablyBefore_or_after (h : Admits keys entries) {a b : α × Nat} (ha : a ∈ entries.zipIdx)
    (hb : b ∈ entries.zipIdx) : a = b ∨ StablyBefore keys a b ∨ StablyBefore keys b a := by
  obtain ⟨order, -, hlt, heq, hgt⟩ :=
    tells_compareKeys h (List.fst_mem_of_mem_zipIdx ha) (List.fst_mem_of_mem_zipIdx hb)
  cases order with
  | lt => exact .inr (.inl (.inl (hlt.1 rfl)))
  | gt => exact .inr (.inr (.inl (hgt.1 rfl)))
  | eq =>
    have htied := heq.1 rfl
    rcases Nat.lt_trichotomy a.2 b.2 with hplace | hplace | hplace
    · exact .inr (.inl (.inr ⟨htied, hplace⟩))
    · obtain ⟨item, i⟩ := a
      obtain ⟨other, j⟩ := b
      obtain rfl : i = j := hplace
      rw [List.mem_zipIdx_iff_getElem?] at ha hb
      obtain rfl : item = other := Option.some.inj (ha.symm.trans hb)
      exact .inl rfl
    · exact .inr (.inr (.inr ⟨htied.symm, hplace⟩))

open Classical in
/-- The sort is told which of two entries comes before the other. -/
theorem precedes_sortable (h : Admits keys entries) {a b : α × Nat} (ha : a ∈ entries.zipIdx)
    (hb : b ∈ entries.zipIdx) :
    Sortable.precedes (keys.map (·.direction)) (sortable keys a) (sortable keys b) =
      .ok (decide (StablyBefore keys a b)) := by
  obtain ⟨order, horder, hlt, heq, hgt⟩ :=
    tells_compareKeys h (List.fst_mem_of_mem_zipIdx ha) (List.fst_mem_of_mem_zipIdx hb)
  have hcompare : Sortable.compare (keys.map (·.direction)) (sortable keys a) (sortable keys b) =
      .ok (order.then (compare a.2 b.2)) := by
    simp only [Sortable.compare, sortable, horder]
    cases order <;> rfl
  rw [Sortable.precedes, hcompare]
  refine congrArg Except.ok ?_
  rw [Bool.eq_iff_iff, beq_iff_eq, decide_eq_true_eq, StablyBefore, Ordering.then_eq_lt, hlt, heq,
    Nat.compare_eq_lt]

/-- Entries are in the order of the keys, and in the order in which they were given where no key
tells them apart. -/
structure SortedStably (keys : List (SortBy α)) (entries : List α) (sorted : List (α × Nat)) : Prop where
  perm : sorted ~ entries.zipIdx
  ordered : sorted.Pairwise (StablyBefore keys)

/-- There is one such order at most. -/
theorem SortedStably.unique {sorted other : List (α × Nat)} (h : SortedStably keys entries sorted)
    (hother : SortedStably keys entries other) : other = sorted := by
  refine List.Perm.eq_of_pairwise (fun a b _ _ hab hba => ?_) hother.ordered h.ordered
    (hother.perm.trans h.perm.symm)
  exact absurd (hab.trans hba) (StablyBefore.irrefl keys a)

open Classical in
/-- Entries whose values can be compared are sorted. -/
theorem succeeds_sort_sortable (h : Admits keys entries) :
    Succeeds (SortedStably keys entries) (Sorting.sort
      (fun a b => Sortable.precedes (keys.map (·.direction)) (sortable keys a) (sortable keys b))
      entries.zipIdx) := by
  -- an entry that does not come before another is the same or comes after it
  let le (a b : α × Nat) : Bool := !decide (StablyBefore keys b a)
  have hle {a b : α × Nat} : le a b = true ↔ ¬ StablyBefore keys b a := by simp [le]
  obtain ⟨sorted, hsort, hordered⟩ : Succeeds (Sorting.InOrder le) (Sorting.sort
      (fun a b => Sortable.precedes (keys.map (·.direction)) (sortable keys a) (sortable keys b))
      entries.zipIdx) := by
    refine Sorting.succeeds_sort_of_mem (fun a ha b hb => ?_) (fun a ha b hb c hc hab hbc => ?_)
      fun a ha b hb => ?_
    · rw [precedes_sortable h ha hb]
      simp [le]
    · rw [hle] at hab hbc ⊢
      intro hca
      rcases stablyBefore_or_after h ha hb with rfl | hbefore | hafter
      · exact hbc hca
      · exact hbc (hca.trans hbefore)
      · exact hab hafter
    · rw [hle, hle]
      by_contra hboth
      simp only [not_or, not_not] at hboth
      exact StablyBefore.irrefl keys a (hboth.2.trans hboth.1)
  have hperm := Sorting.sort_perm hsort
  have hnodup : sorted.Nodup := by
    refine hperm.nodup_iff.2 (List.Nodup.of_map Prod.snd ?_)
    rw [List.zipIdx_map_snd]
    exact List.nodup_range'
  refine ⟨sorted, hsort, hperm, (hordered.and hnodup).imp_of_mem fun ha hb hab => ?_⟩
  rcases stablyBefore_or_after h (hperm.subset ha) (hperm.subset hb) with heq | hbefore | hafter
  · exact absurd heq hab.2
  · exact hbefore
  · exact absurd hafter (hle.1 hab.1)

/-- What is sorted is in the order of the keys. -/
theorem exists_sortedStably (h : Admits keys entries) : ∃ sorted, SortedStably keys entries sorted ∧
    sortItems (keys.map (·.direction)) (entries.map fun entry => (entry, values keys entry)) =
      .ok (sorted.map (·.1)) := by
  obtain ⟨sorted, hsort, hsorted⟩ := succeeds_sort_sortable h
  have hplaced : ((entries.map fun entry => (entry, values keys entry)).mapIdx
      fun position item => Sortable.mk item.1 item.2 position) = entries.zipIdx.map (sortable keys) := by
    rw [List.mapIdx_eq_zipIdx_map, List.zipIdx_map, List.map_map]
    rfl
  refine ⟨sorted, hsorted, ?_⟩
  rw [sortItems, hplaced, Sorting.sort_map, hsort]
  exact congrArg Except.ok (List.map_map ..)

/-! ## Keys of other items -/

section

variable {β : Type} {keys : List (SortBy β)} {f : α → β}

/-- A key of other items, read off what they stand for. -/
def along (f : α → β) (key : SortBy β) : SortBy α := ⟨key.direction, key.valueOf ∘ f⟩

theorem before_along {a b : α} : Before (keys.map (along f)) a b ↔ Before keys (f a) (f b) := by
  induction keys with
  | nil => rfl
  | cons key keys ih => exact or_congr_right (and_congr_right fun _ => ih)

theorem tied_along {a b : α} : Tied (keys.map (along f)) a b ↔ Tied keys (f a) (f b) :=
  List.forall_mem_map

theorem stablyBefore_along {a b : α × Nat} : StablyBefore (keys.map (along f)) a b ↔
    StablyBefore keys (Prod.map f id a) (Prod.map f id b) :=
  or_congr before_along (and_congr_left fun _ => tied_along)

/-- What items stand for is in order as they are. -/
theorem SortedStably.map {sorted : List (α × Nat)} (h : SortedStably (keys.map (along f)) entries sorted) :
    SortedStably keys (entries.map f) (sorted.map (Prod.map f id)) where
  perm := by
    rw [List.zipIdx_map]
    exact h.perm.map _
  ordered := by
    rw [List.pairwise_map]
    exact h.ordered.imp stablyBefore_along.1

end

end SortBy

open SortBy

/-- **ORDER BY sorts.** For all entries and keys such that the values of each key are of one family
and none is `nan`, what is sorted is the one list of the entries that is in the order of the keys. -/
theorem sortItems_sortedStably {α : Type} {keys : List (SortBy α)} {entries : List α}
    (h : Admits keys entries) : ∃ sorted, SortedStably keys entries sorted ∧
      (∀ other, SortedStably keys entries other → other = sorted) ∧
      sortItems (keys.map (·.direction)) (entries.map fun entry => (entry, values keys entry)) =
        .ok (sorted.map (·.1)) := by
  obtain ⟨sorted, hsorted, hitems⟩ := exists_sortedStably h
  exact ⟨sorted, hsorted, fun _ => hsorted.unique, hitems⟩

/-- The wages of a department, the highest first: two are equal, and one person has no department. -/
def wages : List (String × Value × Value) :=
  [("Ann", .ofText "ops", .ofNat 10), ("Bob", .ofText "dev", .ofNat 20), ("Cid", .ofText "ops", .ofNat 30),
   ("Dee", .ofText "dev", .ofNat 20), ("Eve", none, .ofNat 5)]

def byDepartment : List (SortBy (String × Value × Value)) := [⟨.asc, (·.2.1)⟩, ⟨.desc, (·.2.2)⟩]

theorem sortItems_sortedStably_wages : Admits byDepartment wages ∧
    ∃ sorted, SortedStably byDepartment wages sorted ∧
      sorted.map (·.1.1) = ["Bob", "Dee", "Cid", "Ann", "Eve"] := by
  have hadmits : Admits byDepartment wages := by
    refine List.forall_mem_cons.2 ⟨⟨.string, ?_⟩, List.forall_mem_singleton.2 ⟨.number, ?_⟩⟩
    · decide +kernel
    · decide +kernel
  obtain ⟨sorted, hsorted, -, hitems⟩ := sortItems_sortedStably hadmits
  refine ⟨hadmits, sorted, hsorted, ?_⟩
  have hgiven : sortItems (byDepartment.map (·.direction))
      (wages.map fun entry => (entry, values byDepartment entry)) =
      .ok (["Bob", "Dee", "Cid", "Ann", "Eve"].filterMap fun name => wages.find? (·.1 == name)) := by
    decide +kernel
  have hnames := congrArg (List.map (·.1)) (Except.ok.inj (hitems.symm.trans hgiven))
  rw [List.map_map] at hnames
  exact hnames.trans (by decide +kernel)

end RelStore
