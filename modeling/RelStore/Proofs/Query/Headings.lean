/-
Answers under other headings.

An aggregate without an alias is shown under its text, with the names in it as they were written. The
names of a query in lower case change nothing but these headings (`agree_run`): a group is asked for
the same aggregates, since what is known of it is held under texts in lower case, and two columns that
are under one heading in one spelling only have the same values (`sameFields_ofList`).
-/
import RelStore.Proofs.Lockstep.Sorting
import RelStore.Proofs.Query.LetterCase
import RelStore.Proofs.Query.Words

namespace RelStore

open Sql
open List (Forall₂)
open Text (sameName lower lowerLetters SameLetter)

/-! ## Texts of references and calls -/

theorem Sql.ColumnRef.sameLetters_text (ref : ColumnRef) :
    Forall₂ SameLetter (ref.renamed lowerLetters).text.toList ref.text.toList := by
  obtain ⟨_ | table, column⟩ := ref
  · exact Text.sameLetters_lowerLetters column
  · have hrenamed : ((ColumnRef.mk (some table) column).renamed lowerLetters).text.toList =
        (lowerLetters table).toList ++ '.' :: (lowerLetters column).toList := toList_text_of_table rfl
    rw [hrenamed, toList_text_of_table rfl]
    exact List.rel_append (Text.sameLetters_lowerLetters table)
      (.cons rfl (Text.sameLetters_lowerLetters column))

theorem Sql.AggregateCall.sameLetters_text (call : AggregateCall) :
    Forall₂ SameLetter (call.renamed lowerLetters).text.toList call.text.toList := by
  have hself (text : List Char) : Forall₂ SameLetter text text := List.forall₂_same.2 fun _ _ => rfl
  have hargument : Forall₂ SameLetter (call.renamed lowerLetters).argumentText.toList
      call.argumentText.toList := by
    obtain ⟨fn, _ | ref⟩ := call
    · exact hself _
    · exact ref.sameLetters_text
  rw [toList_text, toList_text]
  exact List.rel_append (hself _) (.cons rfl (List.rel_append hargument (hself _)))

theorem lower_text_renamed (call : AggregateCall) :
    lower (call.renamed lowerLetters).text = lower call.text :=
  Text.lower_eq_of_sameLetters call.sameLetters_text

/-! ## Headings -/

/-- The headings are one, or texts of aggregates that differ in letter case. -/
def SameHeading (name other : String) : Prop :=
  name = other ∨ ∃ call call' : AggregateCall, name = call.text ∧ other = call'.text ∧ sameName name other = true

theorem SameHeading.sameName {name other : String} (h : SameHeading name other) :
    sameName name other = true := by
  rcases h with rfl | ⟨_, _, -, -, h⟩
  · exact Text.sameName_refl name
  · exact h

/-- The rows have the same values under headings at one place. -/
def SameFields (columns columns' : List String) (row row' : Row) : Prop :=
  Forall₂ (fun name name' => ∃ v, row.get? name = some v ∧ row'.get? name' = some v) columns columns'

namespace SameFields

variable {columns columns' : List String} {row row' : Row}

theorem map_get_eq (h : SameFields columns columns' row row') :
    columns.map row.get = columns'.map row'.get :=
  map_eq_map h fun _ _ ⟨_, hv, hv'⟩ => by rw [Row.get, Row.get, hv, hv']

theorem rowKeyText_eq (h : SameFields columns columns' row row') :
    rowKeyText columns row = rowKeyText columns' row' :=
  congrArg joinKeyTexts (map_eq_map h fun _ _ ⟨_, hv, hv'⟩ => by rw [fieldKeyText, fieldKeyText, hv, hv'])

end SameFields

/-! ## Rows under headings -/

section

variable {ι : Type} {items : List ι} {name name' : ι → String} {value : ι → Value}

theorem Row.get?_ofList_concat (fields : List (String × Value)) (field : String × Value) (n : String) :
    (ofList (fields ++ [field])).get? n = if n = field.1 then some field.2 else (ofList fields).get? n := by
  rw [ofList, List.foldl_append, List.foldl_cons, List.foldl_nil]
  split
  next h => rw [h, get?_set_self]
  next h => exact get?_set_other _ _ h

/-- Names that stand for the same items have the same values. -/
theorem Row.get?_ofList_congr {n n' : String} (h : ∀ i ∈ items, name i = n ↔ name' i = n') :
    (ofList (items.map fun i => (name i, value i))).get? n =
      (ofList (items.map fun i => (name' i, value i))).get? n' := by
  induction items using List.reverseRecOn with
  | nil => rfl
  | append_singleton items last ih =>
    rw [List.forall_mem_append, List.forall_mem_singleton] at h
    rw [List.map_append, List.map_append]
    simp only [List.map_cons, List.map_nil, get?_ofList_concat, ih h.1, eq_comm (a := n), eq_comm (a := n'), h.2]

/-- A name that stands for one value only has this value. -/
theorem Row.get?_ofList {i : ι} (hi : i ∈ items) (h : ∀ j ∈ items, name j = name i → value j = value i) :
    (ofList (items.map fun i => (name i, value i))).get? (name i) = some (value i) := by
  induction items using List.reverseRecOn with
  | nil => cases hi
  | append_singleton items last ih =>
    rw [List.forall_mem_append, List.forall_mem_singleton] at h
    rw [List.map_append, List.map_cons, List.map_nil, get?_ofList_concat]
    split
    next hlast => exact congrArg some (h.2 hlast.symm)
    next hlast =>
      rcases List.mem_append.1 hi with hi | hi
      · exact ih hi h.1
      · exact absurd (by rw [List.mem_singleton.1 hi]) hlast

theorem Row.isSome_get?_ofList {i : ι} (hi : i ∈ items) :
    ((ofList (items.map fun i => (name i, value i))).get? (name i)).isSome := by
  induction items using List.reverseRecOn with
  | nil => cases hi
  | append_singleton items last ih =>
    rw [List.map_append, List.map_cons, List.map_nil, get?_ofList_concat]
    split
    next => rfl
    next hlast =>
      rcases List.mem_append.1 hi with hi | hi
      · exact ih hi
      · exact absurd (by rw [List.mem_singleton.1 hi]) hlast

/-- **Rows have the same values under other names**, if a name stands for the same items as the other, or
for one value only. -/
theorem sameFields_ofList
    (h : ∀ i ∈ items, (∀ j ∈ items, name j = name i ↔ name' j = name' i) ∨
      ∀ j ∈ items, name j = name i ∨ name' j = name' i → value j = value i) :
    SameFields (items.map name) (items.map name') (Row.ofList (items.map fun i => (name i, value i)))
      (Row.ofList (items.map fun i => (name' i, value i))) := by
  rw [SameFields, List.forall₂_map_left_iff, List.forall₂_map_right_iff]
  refine List.forall₂_same.2 fun i hi => ?_
  rcases h i hi with hsame | hvalue
  · obtain ⟨v, hv⟩ := Option.isSome_iff_exists.1 (@Row.isSome_get?_ofList _ _ name value i hi)
    exact ⟨v, hv, Row.get?_ofList_congr hsame ▸ hv⟩
  · exact ⟨value i, Row.get?_ofList hi fun j hj hname => hvalue j hj (.inl hname),
      Row.get?_ofList hi fun j hj hname => hvalue j hj (.inr hname)⟩

end

/-! ## Sort keys -/

/-- The sort keys are output columns at one place, or the same of the source or of groups. -/
inductive SortKey.Told (columns columns' : List String) : SortKey → SortKey → Prop where
  | output {name name' : String} (h : (name, name') ∈ columns.zip columns') :
    Told columns columns' (.output name) (.output name')
  | column (ref : ColumnRef) : Told columns columns' (.column ref) (.column (ref.renamed lowerLetters))
  | aggregate (call : AggregateCall) :
    Told columns columns' (.aggregate call) (.aggregate (call.renamed lowerLetters))

theorem SortKey.Told.inStep_value {m : Type → Type} [Monad m] [MonadExcept Cause m] [Lockstep m]
    (leaves leaves' : Leaves m)
    (hcolumn : ∀ ref, Lockstep.InStep (· = ·) (leaves.column ref) (leaves'.column (ref.renamed lowerLetters)))
    (haggregate : ∀ call,
      Lockstep.InStep (· = ·) (leaves.aggregate call) (leaves'.aggregate (call.renamed lowerLetters)))
    {columns columns' : List String} {row row' : Row} (hrow : SameFields columns columns' row row')
    {key key' : SortKey} (h : key.Told columns columns' key') :
    Lockstep.InStep (· = ·) (key.value leaves row) (key'.value leaves' row') := by
  cases h with
  | output h =>
    obtain ⟨v, hv, hv'⟩ := List.forall₂_zip hrow h
    refine Lockstep.pure ?_
    rw [Row.get, Row.get, hv, hv']
  | column ref => exact hcolumn ref
  | aggregate call => exact haggregate call

namespace Sql.Select

variable (query : Select)

theorem lower_keyName (key : OrderKey) :
    lower ((query.renamed lowerLetters).keyName (key.renamed lowerLetters)) = lower (query.keyName key) := by
  cases key with
  | column ref => exact Text.lower_eq_of_sameLetters ref.sameLetters_text
  | aggregate call =>
    have hsame (other : AggregateCall) :
        sameName (other.renamed lowerLetters).text (call.renamed lowerLetters).text =
          sameName other.text call.text := by
      rw [sameName, lower_text_renamed, lower_text_renamed, sameName]
    simp only [keyName, renamed, OrderKey.renamed]
    induction query.projections with
    | nil => exact lower_text_renamed call
    | cons projection rest ih =>
      rw [List.map_cons, List.findSome?_cons, List.findSome?_cons]
      cases projection with
      | star => exact ih
      | column ref name? => exact ih
      | aggregate other name? =>
        by_cases hcall : sameName other.text call.text = true
        · simp only [Projection.renamed, hsame other, if_pos hcall, Option.getD_some]
          cases name? with
          | none => exact lower_text_renamed other
          | some name => rfl
        · simp only [Projection.renamed, hsame other, if_neg hcall]
          exact ih

theorem paired_sortKey {columns columns' : List String} (hcolumns : Forall₂ SameHeading columns columns')
    {bind bind' : OrderKey → Except Cause SortKey}
    (hbind : ∀ key, Paired Cause.SameCode (SortKey.Told columns columns') (bind key)
      (bind' (key.renamed lowerLetters))) (item : OrderItem) :
    Paired Cause.SameCode (SortKey.Told columns columns') (query.sortKey columns bind item)
      ((query.renamed lowerLetters).sortKey columns' bind' (item.renamed lowerLetters)) := by
  have hpairs : Forall₂ (fun name name' => SameHeading name name' ∧ (name, name') ∈ columns.zip columns')
      columns columns' :=
    List.forall₂_iff_zip.2 ⟨hcolumns.length_eq, fun h => ⟨List.forall₂_zip hcolumns h, h⟩⟩
  have hfound := rel_find? hpairs (p := (sameName · (query.keyName item.key)))
    (q := (sameName · ((query.renamed lowerLetters).keyName (item.key.renamed lowerLetters))))
    fun name name' h => by rw [sameName, sameName, lower_keyName, sameName_iff.1 h.1.sameName]
  rw [sortKey, sortKey, outputColumn?, outputColumn?]
  simp only [OrderItem.renamed]
  generalize columns.find? _ = found, columns'.find? _ = found' at hfound ⊢
  cases hfound with
  | some h => exact .ok (.output h.2)
  | none => exact hbind item.key

end Sql.Select

/-! ## Output -/

theorem Sql.Select.paired_shape {α β : Type} {R : α → β → Prop} {entries : List α} {others : List β}
    (query : Select) {columns columns' : List String} {rowOf : α → Row} {rowOf' : β → Row}
    {sortValues : α → Except Cause (List Value)} {sortValues' : β → Except Cause (List Value)}
    (h : Forall₂ R entries others)
    (hrow : ∀ a b, R a b → SameFields columns columns' (rowOf a) (rowOf' b))
    (hvalues : ∀ a b, R a b → Agree (sortValues a) (sortValues' b)) :
    Paired Cause.SameCode
      (fun listing listing' => listing.columns = columns ∧ listing'.columns = columns' ∧
        Forall₂ (SameFields columns columns') listing.rows listing'.rows)
      (query.shape columns rowOf sortValues entries)
      ((query.renamed lowerLetters).shape columns' rowOf' sortValues' others) := by
  have hkept : Forall₂ R
      (if query.distinct then distinctItems rowOf columns entries else entries)
      (if query.distinct then distinctItems rowOf' columns' others else others) := by
    split
    · exact forall₂_keepFirst h (fun a b hab => (hrow a b hab).rowKeyText_eq) []
    · exact h
  have hpage {sorted : List α} {sorted' : List β} (hsorted : Forall₂ R sorted sorted') :
      Forall₂ (SameFields columns columns') ((paginate query.offset query.limit sorted).map rowOf)
        ((paginate query.offset query.limit sorted').map rowOf') := by
    rw [List.forall₂_map_left_iff, List.forall₂_map_right_iff]
    exact (forall₂_paginate hsorted query.offset query.limit).imp hrow
  have hdirections : (query.orderBy.map (OrderItem.renamed lowerLetters)).map (·.direction) =
      query.orderBy.map (·.direction) := List.map_map
  rw [shape, shape]
  simp only [renamed, List.isEmpty_map, hdirections]
  by_cases hunsorted : query.orderBy.isEmpty = true
  · rw [if_pos hunsorted, if_pos hunsorted]
    exact .ok ⟨rfl, rfl, hpage hkept⟩
  rw [if_neg hunsorted, if_neg hunsorted]
  have hvalued : Paired Cause.SameCode (Forall₂ fun a b => R a.1 b.1 ∧ Forall₂ Value.Alike a.2 b.2)
      ((if query.distinct then distinctItems rowOf columns entries else entries).mapM fun entry => do
        return (entry, ← sortValues entry))
      ((if query.distinct then distinctItems rowOf' columns' others else others).mapM fun entry => do
        return (entry, ← sortValues' entry)) := by
    let := Lockstep.codes
    refine Lockstep.mapM (m := Except Cause) hkept fun a b hab => (hvalues a b hab).use fun values => ?_
    exact .ok ⟨hab, List.forall₂_same.2 fun v _ => .refl v⟩
  refine hvalued.bind fun _ _ hboth => ?_
  refine (ends_sortItems (query.orderBy.map (·.direction)) hboth).paired.bind fun _ _ hsorted => ?_
  exact .ok ⟨rfl, rfl, hpage hsorted⟩

end RelStore
