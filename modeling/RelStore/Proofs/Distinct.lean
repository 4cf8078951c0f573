/-
What DISTINCT keeps.

Items are taken one after the other: an item is kept if none before it is the same, and is dropped
as the same as one that is kept (`FirstOfEach`). For DISTINCT two items are the same if their rows
have one key text. Rows that are equal do; rows that are not can only if two columns have texts
with NULs, and then DISTINCT drops rows that equal none of those it keeps
(`not_firstOfEach_distinctItems`).
-/
import RelStore.Proofs.KeyText

namespace RelStore

/-- The second list has the first of the items of the first list that are the same. -/
inductive FirstOfEach {α : Type} (same : α → α → Prop) : List α → List α → Prop where
  | nil : FirstOfEach same [] []
  /-- It is the same as no item before it. -/
  | keep {items kept : List α} {item : α} (h : FirstOfEach same items kept)
    (hnew : ∀ earlier ∈ items, ¬ same earlier item) :
    FirstOfEach same (items ++ [item]) (kept ++ [item])
  /-- It is the same as an item before it that is kept. -/
  | drop {items kept : List α} {item earlier : α} (h : FirstOfEach same items kept)
    (hmem : earlier ∈ kept) (hsame : same earlier item) : FirstOfEach same (items ++ [item]) kept

namespace FirstOfEach

variable {α : Type} {same other : α → α → Prop} {items kept : List α}

theorem sublist (h : FirstOfEach same items kept) : kept.Sublist items := by
  induction h with
  | nil => exact .slnil
  | keep _ _ ih => exact ih.append (.refl _)
  | drop _ _ _ ih => exact ih.trans (List.sublist_append_left _ _)

theorem pairwise (h : FirstOfEach same items kept) : kept.Pairwise fun a b => ¬ same a b := by
  induction h with
  | nil => exact .nil
  | keep h hnew ih =>
    refine List.pairwise_append.2 ⟨ih, List.pairwise_singleton _ _, fun a ha b hb => ?_⟩
    rw [List.mem_singleton.1 hb]
    exact hnew a (h.sublist.subset ha)
  | drop _ _ _ ih => exact ih

/-- Each item is kept or the same as one that is. -/
theorem covers (h : FirstOfEach same items kept) (hrefl : ∀ a, same a a) {item : α}
    (hitem : item ∈ items) : ∃ first ∈ kept, same first item := by
  induction h with
  | nil => cases hitem
  | @keep items kept last _ _ ih =>
    rcases List.mem_append.1 hitem with hitem | hitem
    · obtain ⟨first, hfirst, hsame⟩ := ih hitem
      exact ⟨first, List.mem_append_left _ hfirst, hsame⟩
    · rw [List.mem_singleton.1 hitem]
      exact ⟨last, List.mem_append_right _ (List.mem_singleton_self _), hrefl last⟩
  | drop _ hmem hsame ih =>
    rcases List.mem_append.1 hitem with hitem | hitem
    · exact ih hitem
    · rw [List.mem_singleton.1 hitem]
      exact ⟨_, hmem, hsame⟩

/-- What is the same matters for the items only. -/
theorem congr (h : FirstOfEach same items kept)
    (hsame : ∀ a ∈ items, ∀ b ∈ items, same a b ↔ other a b) : FirstOfEach other items kept := by
  induction h with
  | nil => exact .nil
  | @keep items kept last h hnew ih =>
    have hlast : last ∈ items ++ [last] := by simp
    refine .keep (ih fun a ha b hb => hsame a (by simp [ha]) b (by simp [hb]))
      fun earlier hearlier hother => ?_
    exact hnew earlier hearlier ((hsame earlier (by simp [hearlier]) last hlast).2 hother)
  | @drop items kept last earlier h hmem hearlier ih =>
    have hlast : last ∈ items ++ [last] := by simp
    refine .drop (ih fun a ha b hb => hsame a (by simp [ha]) b (by simp [hb])) hmem ?_
    exact (hsame earlier (by simp [h.sublist.subset hmem]) last hlast).1 hearlier

end FirstOfEach

/-! ## Items by their key texts -/

section

variable {α : Type} {keyOf : α → String}

theorem keepFirst_append (seen : List String) (items : List α) (item : α) :
    keepFirst keyOf seen (items ++ [item]) = keepFirst keyOf seen items ++
      if keyOf item ∈ seen ++ items.map keyOf then [] else [item] := by
  induction items generalizing seen with
  | nil => by_cases h : keyOf item ∈ seen <;> simp [keepFirst, h]
  | cons first rest ih =>
    rw [List.cons_append, keepFirst, keepFirst]
    split
    next hseen =>
      -- its key is among those seen already
      have hmem : keyOf item ∈ seen ++ rest.map keyOf ↔
          keyOf item ∈ seen ++ (first :: rest).map keyOf := by
        have := List.contains_iff_mem.1 hseen
        simp only [List.map_cons, List.mem_append, List.mem_cons]
        grind
      simp only [ih, hmem]
    next =>
      have hmem : keyOf item ∈ (keyOf first :: seen) ++ rest.map keyOf ↔
          keyOf item ∈ seen ++ (first :: rest).map keyOf := by
        simp only [List.map_cons, List.mem_append, List.mem_cons]
        grind
      simp only [ih, hmem]
      rfl

theorem keepFirst_map {β : Type} (keyOf : β → String) (f : α → β) (seen : List String)
    (items : List α) :
    keepFirst keyOf seen (items.map f) = (keepFirst (fun a => keyOf (f a)) seen items).map f := by
  induction items generalizing seen with
  | nil => rfl
  | cons a rest ih =>
    rw [List.map_cons, keepFirst, keepFirst]
    split
    next => exact ih seen
    next => rw [ih, List.map_cons]

theorem firstOfEach_keepFirst (keyOf : α → String) (items : List α) :
    FirstOfEach (fun a b => keyOf a = keyOf b) items (keepFirst keyOf [] items) := by
  induction items using List.reverseRecOn with
  | nil => exact .nil
  | append_singleton items item ih =>
    rw [keepFirst_append, List.nil_append]
    split
    next hmem =>
      obtain ⟨earlier, hearlier, hkey⟩ := List.mem_map.1 hmem
      obtain ⟨first, hfirst, hsame⟩ := ih.covers (fun _ => rfl) hearlier
      rw [List.append_nil]
      exact .drop ih hfirst (hsame.trans hkey)
    next hmem =>
      exact .keep ih fun earlier hearlier hkey => hmem (List.mem_map.2 ⟨earlier, hearlier, hkey⟩)

end

/-! ## Rows -/

/-- Two rows are equal in the given columns. -/
def Row.AlikeIn (columns : List String) (row other : Row) : Prop :=
  ∀ name ∈ columns, row.AlikeAt name other

variable {columns : List String} {row other : Row}

theorem Row.AlikeAt.refl (name : String) (row : Row) : row.AlikeAt name row := by
  rw [Row.AlikeAt]
  cases row.get? name with
  | none => exact .none
  | some value => exact .some (.refl value)

theorem rowKeyText_eq_of_alikeIn (h : row.AlikeIn columns other) :
    rowKeyText columns row = rowKeyText columns other :=
  congrArg joinKeyTexts (List.map_congr_left fun name hname => fieldKeyText_eq_iff.2 (h name hname))

/-- Texts with NULs are in one column of a row at most. -/
def Row.NulsOnlyIn (exception : String) (columns : List String) (row : Row) : Prop :=
  ∀ name ∈ columns, name ≠ exception → (row.get name).WithoutNul

instance (exception : String) (columns : List String) (row : Row) :
    Decidable (row.NulsOnlyIn exception columns) :=
  inferInstanceAs (Decidable (∀ name ∈ columns, name ≠ exception → (row.get name).WithoutNul))

theorem rowKeyText_eq_iff {exception : String} (hrow : row.NulsOnlyIn exception columns)
    (hother : other.NulsOnlyIn exception columns) :
    rowKeyText columns row = rowKeyText columns other ↔ row.AlikeIn columns other := by
  rw [rowKeyText, rowKeyText, joinKeyTexts_map_eq_iff exception
    (fun name hname hne => nulFree_fieldKeyText (hrow name hname hne))
    (fun name hname hne => nulFree_fieldKeyText (hother name hname hne))]
  simp only [fieldKeyText_eq_iff, Row.AlikeIn]

/-- **DISTINCT keeps, in order, the first of the items whose rows have one key text.** No two of
them have equal rows. If at most one column has texts with NULs, then these are the first of the
items with equal rows. -/
theorem firstOfEach_distinctItems {α : Type} (rowOf : α → Row) (columns : List String)
    (items : List α) :
    FirstOfEach (fun a b => rowKeyText columns (rowOf a) = rowKeyText columns (rowOf b)) items
      (distinctItems rowOf columns items) ∧
    (distinctItems rowOf columns items).Sublist items ∧
    (distinctItems rowOf columns items).Pairwise
      (fun a b => ¬ (rowOf a).AlikeIn columns (rowOf b)) ∧
    ∀ exception, (∀ item ∈ items, (rowOf item).NulsOnlyIn exception columns) →
      FirstOfEach (fun a b => (rowOf a).AlikeIn columns (rowOf b)) items
        (distinctItems rowOf columns items) := by
  have hfirst := firstOfEach_keepFirst (fun item => rowKeyText columns (rowOf item)) items
  refine ⟨hfirst, hfirst.sublist, ?_, fun exception hnuls => ?_⟩
  · exact hfirst.pairwise.imp fun hne halike => hne (rowKeyText_eq_of_alikeIn halike)
  · exact hfirst.congr fun a ha b hb => rowKeyText_eq_iff (hnuls a ha) (hnuls b hb)

/-- NULL is kept once, and `1` and `'1'` apart. -/
theorem firstOfEach_distinctItems_mixed :
    let row (v : Value) : Row := ⟨[("a", v), ("b", .ofText "x")]⟩
    let rows := [row (.ofNat 1), row (.ofNat 1), row (.ofText "1"), row none, row none]
    (∀ row ∈ rows, row.NulsOnlyIn "a" ["a", "b"]) ∧
      distinctItems id ["a", "b"] rows = [row (.ofNat 1), row (.ofText "1"), row none] ∧
      FirstOfEach (fun a b : Row => a.AlikeIn ["a", "b"] b) rows
        (distinctItems id ["a", "b"] rows) := by
  intro row rows
  have hnuls : ∀ row ∈ rows, row.NulsOnlyIn "a" ["a", "b"] := by decide +kernel
  exact ⟨hnuls, by decide +kernel,
    (firstOfEach_distinctItems id ["a", "b"] rows).2.2.2 "a" hnuls⟩

/-- A row that equals no other is dropped. -/
theorem not_firstOfEach_distinctItems :
    let first : Row := ⟨[("a", .ofText "x\x00string:y"), ("b", .ofText "z")]⟩
    let second : Row := ⟨[("a", .ofText "x"), ("b", .ofText "y\x00string:z")]⟩
    ¬ first.AlikeIn ["a", "b"] second ∧ distinctItems id ["a", "b"] [first, second] = [first] ∧
      ¬ FirstOfEach (fun a b : Row => a.AlikeIn ["a", "b"] b) [first, second]
        (distinctItems id ["a", "b"] [first, second]) := by
  intro first second
  have hapart : ¬ first.AlikeIn ["a", "b"] second := by
    intro h
    have htexts : (Value.ofText "x\x00string:y").Alike (.ofText "x") :=
      Option.rel_some_some.1 (h "a" (by decide))
    exact absurd (Key.text.inj htexts) (by decide)
  have hkept : distinctItems id ["a", "b"] [first, second] = [first] := by decide +kernel
  refine ⟨hapart, hkept, fun h => ?_⟩
  rw [hkept] at h
  obtain ⟨kept, hmem, hsame⟩ := h.covers (fun row name _ => .refl name row)
    (List.mem_cons_of_mem _ (List.mem_singleton_self second))
  rw [List.mem_singleton.1 hmem] at hsame
  exact hapart hsame

end RelStore
