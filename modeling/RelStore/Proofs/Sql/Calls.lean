/-
Which calls have one text in lower case.

What is known of a group is held under the texts of calls, in lower case. The names of a call are
runs of word characters, so that the text says where each of its parts ends: calls that have one
text in lower case are of one function, and of references that are bound to the same column
(`AggregateCall.folded_eq`, `Scope.resolve_eq_ok_of_folded`).
-/
import Mathlib.Data.List.Basic
import RelStore.Proofs.Name
import RelStore.Proofs.Sql.Grammar
import RelStore.Proofs.Sql.Tokens
import RelStore.Scope

namespace RelStore

namespace Text

/-- In ASCII there is no sigma, and each character has its lower case wherever it stands. -/
theorem lowerAfter_ascii {chars : List Char} (h : ∀ c ∈ chars, c.toNat < 128) (cased : Bool) :
    lowerAfter cased chars = chars.map Char.toLower := by
  induction chars generalizing cased with
  | nil => rfl
  | cons c rest ih =>
    obtain ⟨hc, hrest⟩ := List.forall_mem_cons.1 h
    have hsigma : (c == capitalSigma) = false := by
      refine beq_eq_false_iff_ne.2 ?_
      rintro rfl
      exact absurd hc (by decide)
    simp only [lowerAfter, hsigma, Bool.false_and, Bool.false_eq_true, if_false, lowerChar, hc, if_true]
    rw [ih hrest, List.map_cons, List.singleton_append]

theorem toList_lower {s : String} (h : ∀ c ∈ s.toList, c.toNat < 128) :
    (lower s).toList = s.toList.map Char.toLower := by
  rw [lower, String.toList_ofList, lowerAfter_ascii h]

end Text

namespace Sql

open Text (lower)

/-! ## Parts -/

theorem toNat_lt_of_isWordChar {c : Char} (h : isWordChar c = true) : c.toNat < 128 := by
  simp only [isWordChar, isLetter, isDigit, Bool.or_eq_true, Bool.and_eq_true, decide_eq_true_eq,
    beq_iff_eq, Char.le_def, UInt32.le_iff_toNat_le] at h
  have hunderscore : '_'.toNat < 128 := by decide
  rcases h with ((⟨-, h⟩ | ⟨-, h⟩) | ⟨-, h⟩) | rfl
  · exact Nat.lt_of_le_of_lt h (by decide)
  · exact Nat.lt_of_le_of_lt h (by decide)
  · exact Nat.lt_of_le_of_lt h (by decide)
  · exact hunderscore

/-- The lower case of a word character is one. -/
theorem isWordChar_toLower {c : Char} (h : isWordChar c = true) : isWordChar c.toLower = true :=
  Text.of_ascii (P := fun c => isWordChar c = true → isWordChar c.toLower = true) (by decide +kernel)
    (toNat_lt_of_isWordChar h) h

/-- A name of word characters only. -/
def OfWordChars (name : String) : Prop := ∀ c ∈ name.toList, isWordChar c = true

instance : DecidablePred OfWordChars := fun name =>
  decidable_of_iff (name.toList.all isWordChar = true) List.all_eq_true

section

variable {name : String}

theorem ofWordChars_of_start (h : ∃ first rest, name.toList = first :: rest ∧ isWordStart first = true ∧
    ∀ c ∈ rest, isWordChar c = true) : OfWordChars name := by
  obtain ⟨first, rest, hname, hfirst, hrest⟩ := h
  intro c hc
  rw [hname] at hc
  rcases List.mem_cons.1 hc with rfl | hc
  · exact isWordChar_of_isWordStart hfirst
  · exact hrest c hc

theorem IsIdentifier.ofWordChars (h : IsIdentifier name) : OfWordChars name := ofWordChars_of_start h.start

theorem checkName_eq_ok {kind : NameKind} : checkName kind name = .ok () ↔ name.isEmpty = false ∧
    Text.length name ≤ maxNameLength ∧ wellFormedName kind name = true ∧ isReserved name = false := by
  rw [checkName]
  split
  next hempty => simp [hempty]
  split
  next hlong => simp [Nat.not_le.2 hlong]
  split
  next hformed => simp_all
  split
  next hreserved => simp [hreserved]
  next hempty hlong hformed hreserved =>
    exact iff_of_true rfl ⟨by simpa using hempty, Nat.not_lt.1 hlong, by simpa using hformed,
      by simpa using hreserved⟩

/-- The characters of names of tables and columns. -/
theorem wellFormedName_iff {kind : NameKind} (hkind : kind ≠ .database) :
    wellFormedName kind name = true ↔ ∃ first rest, name.toList = first :: rest ∧
      isWordStart first = true ∧ ∀ c ∈ rest, isWordChar c = true := by
  cases hchars : name.toList with
  | nil =>
    refine iff_of_false ?_ (by rintro ⟨_, _, ⟨⟩, _⟩)
    cases kind <;> simp_all [wellFormedName]
  | cons first rest =>
    have hformed : wellFormedName kind name = (isWordStart first && rest.all isWordChar) := by
      cases kind <;> simp_all [wellFormedName]
    rw [hformed, Bool.and_eq_true, List.all_eq_true]
    refine ⟨fun h => ⟨first, rest, rfl, h⟩, ?_⟩
    rintro ⟨_, _, ⟨⟩, h⟩
    exact h

/-- New tables and columns have names of word characters. -/
theorem ofWordChars_of_checkName {kind : NameKind} (h : checkName kind name = .ok ())
    (hkind : kind ≠ .database) : OfWordChars name :=
  ofWordChars_of_start ((wellFormedName_iff hkind).1 (checkName_eq_ok.1 h).2.2.1)

theorem OfWordChars.toList_lower (h : OfWordChars name) :
    (lower name).toList = name.toList.map Char.toLower :=
  Text.toList_lower fun c hc => toNat_lt_of_isWordChar (h c hc)

theorem OfWordChars.lower (h : OfWordChars name) : OfWordChars (lower name) := by
  intro c hc
  rw [h.toList_lower] at hc
  obtain ⟨d, hd, rfl⟩ := List.mem_map.1 hc
  exact isWordChar_toLower (h d hd)

theorem OfWordChars.not_mem (h : OfWordChars name) {c : Char} (hc : isWordChar c = false) :
    c ∉ name.toList := fun hmem => by
  rw [h c hmem] at hc
  cases hc

end

/-! ## References -/

/-- A reference whose names are runs of word characters. -/
structure ColumnRef.Plain (ref : ColumnRef) : Prop where
  table : ∀ table ∈ ref.table, OfWordChars table
  column : OfWordChars ref.column

instance : DecidablePred ColumnRef.Plain := fun ref =>
  decidable_of_iff ((∀ table ∈ ref.table, OfWordChars table) ∧ OfWordChars ref.column)
    ⟨fun h => ⟨h.1, h.2⟩, fun h => ⟨h.table, h.column⟩⟩

/-- A reference with its names in lower case. -/
def ColumnRef.folded (ref : ColumnRef) : ColumnRef := ⟨ref.table.map lower, lower ref.column⟩

section

variable {ref other : ColumnRef}

theorem IsColumn.plain {words : List Word} (h : IsColumn words ref) (hwords : AllSpoken words) :
    ref.Plain := by
  have hname {name : String} (h : Word.name name ∈ words) : OfWordChars name :=
    IsIdentifier.ofWordChars (hwords _ h).1
  cases h with
  | alone column => exact ⟨nofun, hname List.mem_cons_self⟩
  | qualified table column =>
    refine ⟨?_, hname (List.mem_cons_of_mem _ (List.mem_cons_of_mem _ List.mem_cons_self))⟩
    rintro _ ⟨⟩
    exact hname List.mem_cons_self

theorem ColumnRef.Plain.folded (h : ref.Plain) : ref.folded.Plain := by
  refine ⟨fun table htable => ?_, h.column.lower⟩
  obtain ⟨name, hname, rfl⟩ := Option.map_eq_some_iff.1 htable
  exact (h.table name hname).lower

theorem ColumnRef.toList_text_of_table {table : String} (h : ref.table = some table) :
    ref.text.toList = table.toList ++ '.' :: ref.column.toList := by
  simp only [text, h, String.toList_append]
  exact List.append_assoc ..

theorem ColumnRef.mem_text_of_table {table : String} (h : ref.table = some table) :
    '.' ∈ ref.text.toList :=
  toList_text_of_table h ▸ List.mem_append_right _ List.mem_cons_self

theorem ColumnRef.text_of_alone (h : ref.table = none) : ref.text = ref.column := by
  simp [text, h]

/-- Names do not have the dot between them. -/
theorem ColumnRef.Plain.text_inj (h : ref.Plain) (hother : other.Plain) (heq : ref.text = other.text) :
    ref = other := by
  -- a dot tells a table and a column from a column alone, and where the table ends
  have hdot {name : String} (h : OfWordChars name) : '.' ∉ name.toList := h.not_mem (by decide)
  have hlist := congrArg String.toList heq
  rcases ref with ⟨_ | table, column⟩ <;> rcases other with ⟨_ | table', column'⟩
  · exact congrArg _ heq
  · have hmem : '.' ∈ (ColumnRef.mk (some table') column').text.toList := mem_text_of_table rfl
    rw [← heq] at hmem
    exact absurd hmem (hdot h.column)
  · have hmem : '.' ∈ (ColumnRef.mk (some table) column).text.toList := mem_text_of_table rfl
    rw [heq] at hmem
    exact absurd hmem (hdot hother.column)
  · rw [toList_text_of_table rfl, toList_text_of_table rfl] at hlist
    obtain ⟨htable, -, hcolumn⟩ :=
      (List.append_cons_inj_of_notMem (hdot (h.table _ rfl)) (hdot h.column)).1 hlist
    obtain rfl := String.toList_inj.1 htable
    obtain rfl : column = column' := String.toList_inj.1 hcolumn
    rfl

theorem ColumnRef.Plain.toList_text_folded (h : ref.Plain) :
    ref.folded.text.toList = ref.text.toList.map Char.toLower := by
  obtain ⟨table?, column⟩ := ref
  have hcolumn := h.column.toList_lower
  cases table? with
  | none => rwa [ColumnRef.text_of_alone rfl, ColumnRef.text_of_alone rfl]
  | some table =>
    rw [ColumnRef.toList_text_of_table rfl, ColumnRef.toList_text_of_table rfl, List.map_append,
      List.map_cons, ← (h.table table rfl).toList_lower, ← hcolumn]
    rfl

theorem ColumnRef.Plain.mem_text (h : ref.Plain) {c : Char} (hc : c ∈ ref.text.toList) :
    isWordChar c = true ∨ c = '.' := by
  obtain ⟨table?, column⟩ := ref
  cases table? with
  | none =>
    rw [ColumnRef.text_of_alone rfl] at hc
    exact .inl (h.column c hc)
  | some table =>
    rw [ColumnRef.toList_text_of_table rfl] at hc
    rcases List.mem_append.1 hc with hc | hc
    · exact .inl (h.table table rfl c hc)
    · exact (List.mem_cons.1 hc).symm.imp_left (h.column c)

end

/-! ## Calls -/

/-- A call whose argument has plain names. -/
def AggregateCall.Plain (call : AggregateCall) : Prop := ∀ ref ∈ call.argument, ref.Plain

instance : DecidablePred AggregateCall.Plain := fun call =>
  inferInstanceAs (Decidable (∀ ref ∈ call.argument, ref.Plain))

/-- A call with the names of its argument in lower case. -/
def AggregateCall.folded (call : AggregateCall) : AggregateCall :=
  ⟨call.fn, call.argument.map ColumnRef.folded⟩

section

variable {call other : AggregateCall}

theorem IsAggregate.plain {words : List Word} (h : IsAggregate words call) (hwords : AllSpoken words) :
    call.Plain := by
  cases h with
  | rows _ => exact nofun
  | column _ hcolumn =>
    rintro _ ⟨⟩
    obtain ⟨-, -, hwords⟩ := List.forall_mem_cons.1 hwords |>.imp_right List.forall_mem_cons.1
    exact hcolumn.plain (List.forall_mem_append.1 hwords).1

/-- What stands in the parentheses of a call. -/
def AggregateCall.argumentText (call : AggregateCall) : String := (call.argument.map ColumnRef.text).getD "*"

theorem AggregateCall.toList_text (call : AggregateCall) :
    call.text.toList = call.fn.name.toList ++ '(' :: (call.argumentText.toList ++ [')']) := by
  rcases call with ⟨fn, _ | ref⟩ <;>
    simp only [text, argumentText, String.toList_append, List.append_assoc] <;> rfl

theorem AggregateCall.toList_argumentText_rows {fn : AggregateFn} :
    (AggregateCall.mk fn none).argumentText.toList = ['*'] := by
  show "*".toList = ['*']
  decide

theorem AggregateCall.Plain.mem_argumentText (h : call.Plain) {c : Char}
    (hc : c ∈ call.argumentText.toList) : isWordChar c = true ∨ c = '.' ∨ c = '*' := by
  rcases call with ⟨fn, _ | ref⟩
  · rw [AggregateCall.toList_argumentText_rows] at hc
    exact .inr (.inr (List.mem_singleton.1 hc))
  · exact ((h ref rfl).mem_text hc).imp_right .inl

theorem AggregateCall.Plain.folded (h : call.Plain) : call.folded.Plain := by
  intro ref href
  obtain ⟨argument, hargument, rfl⟩ := Option.map_eq_some_iff.1 href
  exact (h argument hargument).folded

theorem AggregateCall.Plain.toList_argumentText_folded (h : call.Plain) :
    call.folded.argumentText.toList = call.argumentText.toList.map Char.toLower := by
  rcases call with ⟨fn, _ | ref⟩
  · simp only [AggregateCall.folded, Option.map_none, AggregateCall.toList_argumentText_rows]
    rfl
  · exact (h ref rfl).toList_text_folded

theorem AggregateCall.Plain.argument_eq (h : call.Plain) (hother : other.Plain)
    (heq : call.argumentText = other.argumentText) : call.argument = other.argument := by
  have hstar {ref : ColumnRef} (h : ref.Plain) : ref.text ≠ "*" := fun heq => by
    rcases h.mem_text (heq ▸ List.mem_cons_self : '*' ∈ ref.text.toList) with hc | hc
    · exact absurd hc (by decide)
    · exact absurd hc (by decide)
  rcases call with ⟨fn, _ | ref⟩ <;> rcases other with ⟨fn', _ | ref'⟩
  · rfl
  · exact absurd heq.symm (hstar (hother ref' rfl))
  · exact absurd heq (hstar (h ref rfl))
  · exact congrArg some ((h ref rfl).text_inj (hother ref' rfl) heq)

theorem AggregateFn.eq_of_lower_name : ∀ fn other : AggregateFn,
    fn.name.toList.map Char.toLower = other.name.toList.map Char.toLower → fn = other := by
  intro fn other h
  cases fn <;> cases other <;> first | rfl | exact absurd h (by decide)

/-- The text of a call in lower case has the text of the folded argument in it. -/
theorem AggregateCall.Plain.toList_lower_text (h : call.Plain) : (lower call.text).toList =
    call.fn.name.toList.map Char.toLower ++ '(' :: (call.folded.argumentText.toList ++ [')']) := by
  have hascii : ∀ c ∈ call.text.toList, c.toNat < 128 := by
    intro c hc
    rw [AggregateCall.toList_text] at hc
    simp only [List.mem_append, List.mem_cons, List.not_mem_nil, or_false] at hc
    rcases hc with hc | rfl | hc | rfl
    · have hname : call.fn.name.toList.all (·.toNat < 128) = true := by
        cases call.fn <;> decide
      exact of_decide_eq_true (List.all_eq_true.1 hname c hc)
    · decide
    · rcases h.mem_argumentText hc with hc | rfl | rfl
      · exact toNat_lt_of_isWordChar hc
      · decide
      · decide
    · decide
  rw [Text.toList_lower hascii, AggregateCall.toList_text, h.toList_argumentText_folded]
  simp only [List.map_append, List.map_cons, List.map_nil]
  rfl

/-- **Calls of one text in lower case are one call**, the letter case of names apart. -/
theorem AggregateCall.Plain.folded_eq (h : call.Plain) (hother : other.Plain)
    (heq : lower call.text = lower other.text) : call.folded = other.folded := by
  have hlist := congrArg String.toList heq
  rw [h.toList_lower_text, hother.toList_lower_text] at hlist
  have hname : '(' ∉ call.fn.name.toList.map Char.toLower := by
    cases call.fn <;> decide
  have hargument : '(' ∉ call.folded.argumentText.toList ++ [')'] := by
    intro hmem
    rcases List.mem_append.1 hmem with hmem | hmem
    · rcases h.folded.mem_argumentText hmem with hc | hc | hc
      · exact absurd hc (by decide)
      · exact absurd hc (by decide)
      · exact absurd hc (by decide)
    · exact absurd hmem (by decide)
  obtain ⟨hfn, -, hrest⟩ := (List.append_cons_inj_of_notMem hname hargument).1 hlist
  have harguments := h.folded.argument_eq hother.folded
    (String.toList_inj.1 (List.append_cancel_right hrest))
  exact (AggregateCall.mk.injEq ..).mpr ⟨AggregateFn.eq_of_lower_name _ _ hfn, harguments⟩

end

end Sql

/-! ## Binding -/

open Sql

/-- What a reference is bound to does not depend on the letter case of its names. -/
theorem Scope.resolve_eq_ok_of_folded {scope : Scope} {ref other : ColumnRef}
    (h : ref.folded = other.folded) {bound : BoundColumn} (hbound : scope.resolve ref = .ok bound) :
    scope.resolve other = .ok bound := by
  obtain ⟨table?, column⟩ := ref
  obtain ⟨table?', column'⟩ := other
  obtain ⟨htable, hcolumn⟩ := ColumnRef.mk.inj h
  have hsame : Text.sameName column column' = true := sameName_iff.2 hcolumn
  have hfind (schema : Schema) : schema.column? column' = schema.column? column := by
    simp only [Schema.column?, sameName_congr hsame]
  rcases table? with _ | table <;> rcases table?' with _ | table'
  · have hnamed : scope.named column' = scope.named column := by
      simp only [named, hfind]
    simp only [resolve, hnamed] at hbound ⊢
    split at hbound
    · cases hbound
    · exact hbound
    · cases hbound
  · cases htable
  · cases htable
  · have htables : Text.sameName table table' = true := sameName_iff.2 (Option.some.inj htable)
    simp only [resolve, resolveIn, sameName_congr htables, hfind] at hbound ⊢
    split at hbound
    · cases hbound
    · split at hbound
      · cases hbound
      · exact hbound

end RelStore
