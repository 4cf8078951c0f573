/-
Which values and rows have one key text.

The key text of a value has its family in front, and in each family texts are spelled in one way,
so that it tells values apart as their keys do (`keyText_eq_iff`). The texts of several values are
joined by NULs, and a NUL within a text is not marked. Joined texts can be taken apart again if it
is known how many NULs each part has (`intercalate_inj`). This is so if at most one column has
texts with NULs: then all that the joined text has beyond its separators are in that column
(`joinKeyTexts_map_eq_iff`).
-/
import Mathlib.Algebra.BigOperators.Group.List.Lemmas
import RelStore.Proofs.Alike
import RelStore.Proofs.Json.Number
import RelStore.Sorting

namespace RelStore

open List (Forall₂)

/-! ## Numbers -/

namespace Json

theorem Reads.unique {json other read read' : Json} (h : Reads json read) (h' : Reads other read')
    (htext : prettyAt 0 json = prettyAt 0 other) : read = read' := by
  have hread := (h 0).read _ [] le_rfl nofun
  rw [htext, (h' 0).read _ [] le_rfl nofun] at hread
  cases hread
  rfl

/-- The characters of finite numbers. -/
def NumeralChar (c : Char) : Prop := c.isDigit = true ∨ c ∈ ['.', 'e', '+', '-']

theorem Digits.numeralChar {digits : List Char} (h : Digits digits) :
    ∀ c ∈ digits, NumeralChar c :=
  fun c hc => .inl (h c hc)

theorem numeralChar_powerText (power : Option Int) : ∀ c ∈ powerText power, NumeralChar c := by
  cases power with
  | none => nofun
  | some power =>
    intro c hc
    rcases List.mem_cons.1 hc with rfl | hc
    · exact .inr (by decide)
    rcases List.mem_cons.1 hc with rfl | hc
    · split
      · exact .inr (by decide)
      · exact .inr (by decide)
    · exact (digits_digitsOf _).numeralChar c hc

theorem numeralChar_fractionText {fraction : List Char} (h : Digits fraction) :
    ∀ c ∈ fractionText fraction, NumeralChar c := by
  intro c hc
  rw [fractionText] at hc
  split at hc
  · cases hc
  · rcases List.mem_cons.1 hc with rfl | hc
    · exact .inr (by decide)
    · exact h.numeralChar c hc

end Json

namespace Binary64

open Json

variable {a b n : Binary64}

theorem numberText_eq (h : n.isFinite = true) : numberText n = n.text := by
  rw [numberText, if_pos h]

theorem numeralChar_text (h : n.isFinite = true) : ∀ c ∈ n.text.toList, NumeralChar c := by
  cases n with
  | nan => cases h
  | signed negative rank =>
    have hrank : rank.val < infinityRank := by simpa [isFinite] using h
    obtain ⟨-, -, ⟨whole, fraction, power, htext, hwhole, hfraction, -⟩, -⟩ :=
      exists_standsFor_magnitudeText hrank
    intro c hc
    rw [← numberText_eq h, toList_numberText hrank, htext, numeral] at hc
    rcases List.mem_append.1 hc with hc | hc
    · split at hc
      · exact .inr (by simp_all)
      · cases hc
    rcases List.mem_append.1 hc with hc | hc
    · exact hwhole.digits.numeralChar c hc
    rcases List.mem_append.1 hc with hc | hc
    · exact numeralChar_fractionText hfraction c hc
    · exact numeralChar_powerText power c hc

/-- Numbers that are not finite are three. -/
theorem eq_of_not_finite (h : n.isFinite = false) : n = .nan ∨ ∃ negative, n = infinity negative := by
  cases n with
  | nan => exact .inl rfl
  | signed negative rank =>
    have hrank : ¬ rank.val < infinityRank := by simpa [isFinite] using h
    have hlast : rank.val = infinityRank := by omega
    exact .inr ⟨negative, by rw [infinity, ← hlast, ofRank_val]⟩

/-- The texts of numbers that are not finite have letters that no numeral has. -/
theorem exists_not_numeralChar (h : n.isFinite = false) : ∃ c ∈ n.text.toList, ¬ NumeralChar c := by
  rcases eq_of_not_finite h with rfl | ⟨_ | _, rfl⟩
  · exact ⟨'N', by decide, by simp [NumeralChar]⟩
  · exact ⟨'I', by decide, by simp [NumeralChar]⟩
  · exact ⟨'I', by decide, by simp [NumeralChar]⟩

theorem text_readBack (n : Binary64) : n.readBack.text = n.text := by
  rcases n with _ | ⟨negative, rank⟩
  · rfl
  · simp [readBack, text]

/-- **The text of a number tells which number it is**, but for the sign of a zero. -/
theorem text_eq_iff : a.text = b.text ↔ a.readBack = b.readBack := by
  constructor
  · intro h
    cases ha : a.isFinite <;> cases hb : b.isFinite
    case true.true =>
      have htext : prettyAt 0 (.number a) = prettyAt 0 (.number b) := by
        rw [prettyAt, prettyAt, numberText_eq ha, numberText_eq hb, h]
      exact Json.number.inj ((reads_number ha).unique (reads_number hb) htext)
    case true.false =>
      obtain ⟨c, hc, hno⟩ := exists_not_numeralChar hb
      exact absurd (numeralChar_text ha c (h ▸ hc)) hno
    case false.true =>
      obtain ⟨c, hc, hno⟩ := exists_not_numeralChar ha
      exact absurd (numeralChar_text hb c (h ▸ hc)) hno
    case false.false =>
      rcases eq_of_not_finite ha with rfl | ⟨_ | _, rfl⟩ <;>
        rcases eq_of_not_finite hb with rfl | ⟨_ | _, rfl⟩ <;>
        first | rfl | exact absurd h (by decide)
  · intro h
    rw [← text_readBack a, h, text_readBack]

end Binary64

/-! ## Values -/

section

variable {α : Type} [DecidableEq α] {sep : α} {front front' after after' : List α}

/-- A separator ends a part whose separators are counted. -/
theorem append_cons_inj_of_count (h : front.count sep = front'.count sep) :
    front ++ sep :: after = front' ++ sep :: after' ↔ front = front' ∧ after = after' := by
  constructor
  · intro heq
    -- a part that went on would have the separator that ends the other part
    have hshort (a b : List α) (hab : a.count sep = b.count sep) {u v rest : List α}
        (hb : b = a ++ rest) (hu : sep :: u = rest ++ sep :: v) : rest = [] := by
      cases rest with
      | nil => rfl
      | cons c rest =>
        obtain ⟨rfl, -⟩ := List.cons.inj hu
        rw [hb, List.count_append, List.count_cons_self] at hab
        omega
    rcases List.append_eq_append_iff.1 heq with ⟨rest, hb, hu⟩ | ⟨rest, hb, hu⟩
    · obtain rfl := hshort _ _ h hb hu
      simp_all
    · obtain rfl := hshort _ _ h.symm hb hu
      simp_all
  · rintro ⟨rfl, rfl⟩
    rfl

end

theorem Family.name_inj {family other : Family} (h : family.name = other.name) :
    family = other := by
  cases family <;> cases other <;> first | rfl | exact absurd h (by decide)

namespace Value

variable {a b : Scalar} {v w : Value}

theorem alike_number_iff {a b : Binary64} :
    Alike (some (.number a)) (some (.number b)) ↔ a.readBack = b.readBack := by
  rcases a with _ | ⟨s, a⟩ <;> rcases b with _ | ⟨t, b⟩
  case signed.signed =>
    rw [Alike, key, key, Key.number.injEq, Binary64.place_eq_iff]
    simp only [Binary64.readBack, Binary64.signed.injEq, ← Fin.val_inj]
    by_cases hzero : a.val = 0
    · simp only [hzero]
      grind
    · grind
  all_goals simp [Alike, key, Binary64.readBack]

theorem toList_keyText (a : Scalar) :
    (keyText (some a)).toList = a.family.name.toList ++ ':' :: a.plain.toList := by
  simp [keyText, toString]

theorem count_colon_family (family : Family) : family.name.toList.count ':' = 0 := by
  cases family <;> decide

/-- The family in front of a key text and what follows it are told apart. -/
theorem keyed_inj {family other : Family} {plain plain' : List Char} :
    family.name.toList ++ ':' :: plain = other.name.toList ++ ':' :: plain' ↔
      family = other ∧ plain = plain' := by
  rw [append_cons_inj_of_count (by rw [count_colon_family, count_colon_family]), String.toList_inj]
  exact and_congr_left fun _ => ⟨Family.name_inj, fun h => h ▸ rfl⟩

theorem keyText_ne_null (a : Scalar) : keyText (some a) ≠ keyText none := by
  intro h
  have hmem : ':' ∈ (keyText (some a)).toList := by simp [toList_keyText]
  rw [h] at hmem
  exact absurd hmem (by decide)

theorem alike_of_plain (hfamily : a.family = b.family) (hplain : a.plain = b.plain) :
    Alike (some a) (some b) := by
  cases a <;> cases b <;> try cases hfamily
  case number a b => exact alike_number_iff.2 (Binary64.text_eq_iff.1 hplain)
  case text a b => exact congrArg Key.text hplain
  case bool a b => cases a <;> cases b <;> first | rfl | exact absurd hplain (by decide)

/-- **Values have one key text exactly if they are one value**: both NULL, or equal in one family. -/
theorem keyText_eq_iff : v.keyText = w.keyText ↔ v.Alike w := by
  refine ⟨fun h => ?_, Alike.keyText_eq⟩
  rcases v with _ | a <;> rcases w with _ | b
  case none.none => exact .refl none
  case none.some => exact absurd h.symm (keyText_ne_null b)
  case some.none => exact absurd h (keyText_ne_null a)
  case some.some =>
    rw [← String.toList_inj, toList_keyText, toList_keyText, keyed_inj, String.toList_inj] at h
    exact alike_of_plain h.1 h.2

end Value

/-! ## Fields -/

/-- What is missing in a record is none of its truth values. -/
theorem missing_ne_bool (name : String) (b : Bool) :
    (Record.memberText? name).getD "undefined" ≠ (Scalar.bool b).plain := by
  have hfunction (name : String) : Record.functionText name ≠ (Scalar.bool b).plain := by
    intro h
    have hsecond := congrArg (fun s : String => s.toList[1]?) h
    cases b <;> simp [Record.functionText, Scalar.plain] at hsecond
  rw [Record.memberText?]
  split
  · cases b <;> decide
  split
  · cases b <;> decide
  split
  · exact hfunction _
  · exact hfunction _

/-- A field is missing in both of two rows, or has one value in both. -/
def Row.AlikeAt (name : String) (row other : Row) : Prop :=
  Option.Rel Value.Alike (row.get? name) (other.get? name)

theorem fieldKeyText_eq_iff {row other : Row} {name : String} :
    fieldKeyText row name = fieldKeyText other name ↔ row.AlikeAt name other := by
  have hmissing (v : Value) :
      Family.boolean.name ++ ":" ++ (Record.memberText? name).getD "undefined" ≠ v.keyText := by
    intro h
    rcases v with _ | a
    · have hcolon := congrArg (fun s : String => ':' ∈ s.toList) h
      simp [Value.keyText] at hcolon
    · rw [← String.toList_inj, Value.toList_keyText] at h
      simp only [String.toList_append, List.append_assoc] at h
      obtain ⟨hfamily, hplain⟩ := Value.keyed_inj.1 h
      cases a with
      | bool b => exact missing_ne_bool name b (String.toList_inj.1 hplain)
      | _ => cases hfamily
  rw [fieldKeyText, fieldKeyText, Row.AlikeAt]
  cases row.get? name <;> cases other.get? name
  case none.none => exact iff_of_true rfl .none
  case none.some v => exact iff_of_false (hmissing v) fun h => by cases h
  case some.none v => exact iff_of_false (fun h => hmissing v h.symm) fun h => by cases h
  case some.some v w => rw [Value.keyText_eq_iff, Option.rel_some_some]

/-! ## Joined texts -/

section

variable {α : Type} [DecidableEq α] {sep : α} {texts others : List (List α)}

/-- Parts whose separators are counted are told apart when they are joined. -/
theorem intercalate_inj (h : Forall₂ (fun a b => a.count sep = b.count sep) texts others) :
    [sep].intercalate texts = [sep].intercalate others ↔ texts = others := by
  induction h with
  | nil => simp
  | @cons a b as bs hab hrest ih =>
    cases hrest with
    | nil => simp
    | cons _ _ =>
      rw [List.intercalate_cons_cons, List.intercalate_cons_cons, List.append_assoc,
        List.append_assoc, List.singleton_append, List.singleton_append,
        append_cons_inj_of_count hab, ih, List.cons.injEq a]

/-- A joined text has the separators of its parts and those between them. -/
theorem count_intercalate (text : List α) (texts : List (List α)) :
    ([sep].intercalate (text :: texts)).count sep =
      ((text :: texts).map (List.count sep)).sum + texts.length := by
  induction texts generalizing text with
  | nil => simp
  | cons next texts ih =>
    rw [List.intercalate_cons_cons, List.count_append, List.count_append, ih]
    simp
    omega

end

theorem toList_joinKeyTexts (texts : List String) :
    (joinKeyTexts texts).toList = ['\x00'].intercalate (texts.map String.toList) :=
  String.toList_intercalate

/-- A text without the character that separates key texts. -/
def NulFree (text : String) : Prop := '\x00' ∉ text.toList

instance (text : String) : Decidable (NulFree text) :=
  inferInstanceAs (Decidable ('\x00' ∉ text.toList))

/-- **Key texts of two rows are told apart when they are joined**, if at most one column has texts
with NULs. -/
theorem joinKeyTexts_map_eq_iff {ι : Type} [DecidableEq ι] {names : List ι} {f g : ι → String}
    (other : ι) (hf : ∀ name ∈ names, name ≠ other → NulFree (f name))
    (hg : ∀ name ∈ names, name ≠ other → NulFree (g name)) :
    joinKeyTexts (names.map f) = joinKeyTexts (names.map g) ↔
      ∀ name ∈ names, f name = g name := by
  have hmap (f : ι → String) : (joinKeyTexts (names.map f)).toList =
      ['\x00'].intercalate (names.map fun name => (f name).toList) := by
    rw [toList_joinKeyTexts, List.map_map]
    rfl
  let nuls (f : ι → String) (name : ι) : Nat := (f name).toList.count '\x00'
  have hzero {f : ι → String} (hf : ∀ name ∈ names, name ≠ other → NulFree (f name)) :
      ∀ name, name ≠ other → name ∈ names → nuls f name = 0 :=
    fun name hne hmem => List.count_eq_zero.2 (hf name hmem hne)
  constructor
  · intro h
    rw [← String.toList_inj, hmap, hmap] at h
    suffices hnuls : ∀ name ∈ names, nuls f name = nuls g name by
      have hparts := (intercalate_inj (List.forall₂_map_left_iff.2 (List.forall₂_map_right_iff.2
        (List.forall₂_same.2 hnuls)))).1 h
      exact fun name hname => String.toList_inj.1 (List.map_inj_left.1 hparts name hname)
    -- all NULs but the separators are in one column
    have htotal : (names.map (nuls f)).sum = (names.map (nuls g)).sum := by
      cases names with
      | nil => rfl
      | cons first rest =>
        have hcount := congrArg (List.count '\x00') h
        rw [List.map_cons, List.map_cons, count_intercalate, count_intercalate, List.length_map,
          List.length_map, Nat.add_right_cancel_iff] at hcount
        simpa [nuls, Function.comp_def] using hcount
    rw [List.sum_map_eq_nsmul_single other (nuls f) (hzero hf),
      List.sum_map_eq_nsmul_single other (nuls g) (hzero hg), Nat.nsmul_eq_mul,
      Nat.nsmul_eq_mul] at htotal
    intro name hname
    by_cases hne : name = other
    · subst hne
      exact Nat.eq_of_mul_eq_mul_left (List.count_pos_iff.2 hname) htotal
    · rw [hzero hf name hne hname, hzero hg name hne hname]
  · exact fun h => congrArg joinKeyTexts (List.map_congr_left h)

/-! ## NULs in values -/

theorem nulFree_append {s t : String} : NulFree (s ++ t) ↔ NulFree s ∧ NulFree t := by
  simp [NulFree]

theorem nulFree_of_numeralChar {text : String} (h : ∀ c ∈ text.toList, Json.NumeralChar c) :
    NulFree text :=
  fun hmem => by rcases h _ hmem with h | h <;> exact absurd h (by decide)

theorem Binary64.nulFree_text (n : Binary64) : NulFree n.text := by
  cases hn : n.isFinite with
  | true => exact nulFree_of_numeralChar (numeralChar_text hn)
  | false => rcases eq_of_not_finite hn with rfl | ⟨_ | _, rfl⟩ <;> decide

/-- A value that is no text, or a text without NULs. -/
def Value.WithoutNul : Value → Prop
  | some (.text s) => NulFree s
  | _ => True

instance : (v : Value) → Decidable v.WithoutNul
  | some (.text s) => inferInstanceAs (Decidable (NulFree s))
  | none | some (.number _) | some (.bool _) => .isTrue trivial

theorem Value.WithoutNul.keyText {v : Value} (h : v.WithoutNul) : NulFree v.keyText := by
  cases v with
  | none => decide
  | some a =>
    have hplain : NulFree a.plain := by
      cases a with
      | number n => exact n.nulFree_text
      | text s => exact h
      | bool b => cases b <;> decide
    have hfamily : NulFree a.family.name := by cases a.family <;> decide
    rw [NulFree, toList_keyText]
    simpa using ⟨hfamily, hplain⟩

/-- Only columns of texts have texts. -/
theorem Value.withoutNul_of_conforms {v : Value} {t : DataType} (h : v.conforms t = true)
    (ht : t ≠ .string) : v.WithoutNul := by
  rcases v with _ | n | s | b
  case some.text => cases t <;> first | exact absurd rfl ht | cases h
  all_goals trivial

theorem nulFree_functionText {name : String} (h : NulFree name) :
    NulFree (Record.functionText name) := by
  rw [Record.functionText, nulFree_append, nulFree_append]
  exact ⟨⟨by decide, h⟩, by decide⟩

theorem nulFree_missing (name : String) :
    NulFree ((Record.memberText? name).getD "undefined") := by
  rw [Record.memberText?]
  split
  · decide
  next hmember =>
    have hname : name ∈ Record.memberNames := by simpa using hmember
    have hnames : ∀ name ∈ Record.memberNames, NulFree name := by decide +kernel
    split
    · decide
    split
    · exact nulFree_functionText (by decide)
    · exact nulFree_functionText (hnames name hname)

theorem nulFree_fieldKeyText {row : Row} {name : String} (h : (row.get name).WithoutNul) :
    NulFree (fieldKeyText row name) := by
  rw [fieldKeyText]
  split
  next value hvalue =>
    rw [Row.get, hvalue] at h
    exact h.keyText
  next =>
    exact nulFree_append.2 ⟨by decide, nulFree_missing name⟩

end RelStore
