/-
The names and values of rows.

Setting a value under a name that a row has leaves its names as they are; every change of a stored
row is of this kind (`names_set`), so that a row keeps exactly the columns it was made with.
-/
import RelStore.Row

namespace RelStore.Row

theorem get_set (row : Row) (name other : String) (value : Value) :
    (row.set name value).get other = if other = name then value else row.get other := by
  by_cases h : other = name
  · subst h
    simp [get]
  · simp [get, get?_set_other row value h, h]

theorem map_fst_setField (name : String) (value : Value) (fields : List (String × Value)) :
    (setField name value fields).map (·.1) =
      if name ∈ fields.map (·.1) then fields.map (·.1) else fields.map (·.1) ++ [name] := by
  induction fields with
  | nil => rfl
  | cons field rest ih =>
    obtain ⟨key, old⟩ := field
    by_cases h : key = name
    · simp [setField, h]
    · have hne : ¬ name = key := fun e => h e.symm
      simp only [setField, beq_iff_eq, h, if_false, List.map_cons, ih, List.mem_cons, hne, false_or]
      split <;> simp

theorem names_set (row : Row) (name : String) (value : Value) :
    (row.set name value).names =
      if name ∈ row.names then row.names else row.names ++ [name] :=
  map_fst_setField name value row.fields

theorem names_set_of_mem {row : Row} {name : String} (value : Value) (h : name ∈ row.names) :
    (row.set name value).names = row.names := by
  rw [names_set, if_pos h]

/-- A row that is built under different names has these names. -/
theorem names_foldl_set (fields : List (String × Value)) (row : Row)
    (hn : (row.names ++ fields.map (·.1)).Nodup) :
    (fields.foldl (fun row field => row.set field.1 field.2) row).names =
      row.names ++ fields.map (·.1) := by
  induction fields generalizing row with
  | nil => simp
  | cons field rest ih =>
    have hnew : field.1 ∉ row.names := by
      rw [List.nodup_append] at hn
      exact fun hm => hn.2.2 _ hm _ (by simp) rfl
    have hset : (row.set field.1 field.2).names = row.names ++ [field.1] := by
      rw [names_set, if_neg hnew]
    rw [List.foldl_cons, ih, hset]
    · simp
    · rw [hset]
      simpa using hn

theorem names_ofList {fields : List (String × Value)} (hn : (fields.map (·.1)).Nodup) :
    (ofList fields).names = fields.map (·.1) :=
  names_foldl_set fields empty hn

/-- A row that is built of NULLs has only NULLs. -/
theorem get_foldl_set_none (names : List String) (row : Row) (other : String)
    (h : row.get other = none) :
    ((names.map fun name => (name, (none : Value))).foldl
      (fun row field => row.set field.1 field.2) row).get other = none := by
  induction names generalizing row with
  | nil => exact h
  | cons name rest ih =>
    refine ih (row.set name none) ?_
    rw [get_set, h, ite_self]

end RelStore.Row
