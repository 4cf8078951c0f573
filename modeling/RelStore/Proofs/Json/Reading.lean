/-
What is written is read back.

`Reads a b` says that the text of `a` is read as `b`, wherever the text stands: at any depth, and
before anything that can follow a value. Strings, arrays and objects are put together from it
(`reads_string`, `reads_array`, `reads_object`), and a whole text is one value before nothing
(`parse?_pretty`). Texts are as long as their values need: each call of a reader takes a character
at least, so that the length of the text is enough of a bound.
-/
import Mathlib.Data.List.Forall2
import RelStore.Proofs.Json.Quoted

namespace RelStore.Json

/-! ## Blanks -/

/-- Characters that are skipped. -/
def Blank (chars : List Char) : Prop := ∀ c ∈ chars, isSpace c = true

theorem skipSpace_append {blank : List Char} (h : Blank blank) (text : List Char) :
    skipSpace (blank ++ text) = skipSpace text := by
  induction blank with
  | nil => rfl
  | cons c rest ih =>
    obtain ⟨hc, hrest⟩ := List.forall_mem_cons.1 h
    rw [List.cons_append, skipSpace, List.dropWhile_cons_of_pos hc]
    exact ih hrest

theorem skipSpace_cons {c : Char} (h : isSpace c = false) (text : List Char) :
    skipSpace (c :: text) = c :: text := by
  rw [skipSpace, List.dropWhile_cons_of_neg (by simp [h])]

theorem skipSpace_skipSpace (text : List Char) : skipSpace (skipSpace text) = skipSpace text := by
  induction text with
  | nil => rfl
  | cons c rest ih =>
    cases h : isSpace c with
    | true => simpa only [skipSpace, List.dropWhile_cons_of_pos h] using ih
    | false => rw [skipSpace_cons h, skipSpace_cons h]

theorem value?_skipSpace (bound : Nat) (text : List Char) :
    value? bound (skipSpace text) = value? bound text := by
  cases bound with
  | zero => rfl
  | succ bound => rw [value?, value?, skipSpace_skipSpace]

theorem value?_append_blank {blank : List Char} (h : Blank blank) (bound : Nat) (text : List Char) :
    value? bound (blank ++ text) = value? bound text := by
  rw [← value?_skipSpace bound (blank ++ text), skipSpace_append h, value?_skipSpace]

/-- The blanks at the beginning of a line. -/
def indent (depth : Nat) : List Char := List.replicate (2 * depth) ' '

theorem blank_indent (depth : Nat) : Blank (indent depth) := by
  intro c hc
  rw [List.eq_of_mem_replicate hc]
  rfl

theorem blank_newline (depth : Nat) : Blank ('\n' :: indent depth) :=
  List.forall_mem_cons.2 ⟨rfl, blank_indent depth⟩

/-! ## Texts of values -/

/-- What can stand after a value: a comma, the end of a line, or nothing. -/
def Follows (rest : List Char) : Prop := ∀ c ∈ rest.head?, c = ',' ∨ c = '\n'

/-- A text is read as a value, before anything that can follow one. -/
structure ReadsAs (text : List Char) (value : Json) : Prop where
  start : ∃ c others, text = c :: others ∧ isSpace c = false ∧ c ≠ ']'
  read : ∀ bound rest, text.length ≤ bound → Follows rest →
    value? bound (text ++ rest) = some (value, rest)

/-- A text is read as a field: as a key, and a value after a colon. -/
def ReadsAsField (text : List Char) (field : String × Json) : Prop :=
  ∃ s value, text = (quoted s).toList ++ ':' :: ' ' :: value ∧ field.1 = joined s ∧
    ReadsAs value field.2

/-- The text of one value is read as another. -/
def Reads (json read : Json) : Prop := ∀ depth, ReadsAs (prettyAt depth json).toList read

variable {bound depth : Nat} {text rest gap : List Char} {texts : List (List Char)}

theorem length_quoted (s : String) : s.toList.length + 2 ≤ (quoted s).toList.length := by
  have := length_le_escapedText s.toList
  rw [toList_quoted]
  simp only [List.length_cons, List.length_append, List.length_nil]
  omega

theorem reads_string (s : String) : Reads (.string s) (.string (joined s)) := by
  intro depth
  constructor
  · exact ⟨'"', _, toList_quoted s, rfl, by decide⟩
  · intro bound rest hbound _
    have hlen := length_quoted s
    have hread (b : Nat) (hb : s.toList.length < b) :
        string? b ((quoted s).toList ++ rest) = some (joined s, rest) := string?_quoted hb
    simp only [prettyAt] at hbound ⊢
    obtain ⟨bound, rfl⟩ : ∃ b, bound = b + 1 := ⟨bound - 1, by omega⟩
    have := hread bound (by omega)
    rw [toList_quoted, List.cons_append] at this ⊢
    rw [value?, skipSpace_cons (by decide)]
    simp only [this, Option.map_some]

/-- A word is read as what it stands for. -/
theorem readsAs_word {word : String} {value : Json} {c : Char} {others : List Char}
    (hword : word.toList = c :: others) (hspace : isSpace c = false) (hc : c ≠ ']')
    (hread : ∀ bound rest, value? (bound + 1) (word.toList ++ rest) =
      word? word value (word.toList ++ rest)) : ReadsAs word.toList value := by
  refine ⟨⟨c, others, hword, hspace, hc⟩, fun bound rest hbound _ => ?_⟩
  obtain ⟨bound, rfl⟩ : ∃ b, bound = b + 1 := by
    rw [hword, List.length_cons] at hbound
    exact ⟨bound - 1, by omega⟩
  have hfront : word.toList.isPrefixOf (word.toList ++ rest) = true :=
    List.isPrefixOf_iff_prefix.2 (List.prefix_append _ _)
  rw [hread, word?, if_pos hfront, ← String.length_toList, List.drop_left]

theorem reads_null : Reads .null .null := by
  intro depth
  rw [prettyAt]
  exact readsAs_word rfl rfl (by decide) fun _ _ => rfl

theorem reads_bool (b : Bool) : Reads (.bool b) (.bool b) := by
  intro depth
  rw [prettyAt]
  cases b with
  | true => exact readsAs_word rfl rfl (by decide) fun _ _ => rfl
  | false => exact readsAs_word rfl rfl (by decide) fun _ _ => rfl

/-! ## Lines -/

/-- Texts one a line, with a comma after each but the last. -/
def lines (depth : Nat) (texts : List (List Char)) : List Char :=
  (',' :: '\n' :: indent depth).intercalate texts

theorem lines_singleton (text : List Char) : lines depth [text] = text :=
  List.intercalate_singleton

theorem lines_cons_cons (text next : List Char) (texts : List (List Char)) :
    lines depth (text :: next :: texts) =
      text ++ ',' :: '\n' :: (indent depth ++ lines depth (next :: texts)) := by
  rw [lines, List.intercalate_cons_cons, List.append_assoc]
  rfl

/-- A block is an opening bracket, the lines of its items, and a closing bracket. -/
theorem toList_block {opening closing : String} {o c : Char} {items : List String}
    (ho : opening.toList = [o]) (hc : closing.toList = [c]) (h : items ≠ []) :
    (block opening closing depth items).toList ++ rest =
      o :: '\n' :: (indent (depth + 1) ++
        (lines (depth + 1) (items.map String.toList) ++ '\n' :: (indent depth ++ c :: rest))) := by
  have hempty : items.isEmpty = false := by simpa using h
  simp [block, hempty, String.toList_intercalate, indent, lines, ho, hc]

/-- Lines begin like the first of them. -/
theorem exists_lines_eq_cons (depth : Nat) (c : Char) (others : List Char)
    (texts : List (List Char)) : ∃ more, lines depth ((c :: others) :: texts) = c :: more := by
  cases texts with
  | nil => exact ⟨others, lines_singleton _⟩
  | cons next texts => exact ⟨_, lines_cons_cons (c :: others) next texts⟩

/-- The end of the last line, up to the closing bracket. -/
theorem skipSpace_newline (c : Char) (h : isSpace c = false) (tail : List Char) :
    skipSpace ('\n' :: (indent depth ++ c :: tail)) = c :: tail :=
  (skipSpace_append (blank_newline depth) _).trans (skipSpace_cons h tail)

/-! ## Arrays -/

theorem items?_lines {values : List Json} (h : List.Forall₂ ReadsAs texts values)
    (hne : texts ≠ []) (lead tail : List Char) (hlead : Blank lead)
    (hbound : (lines (depth + 1) texts).length < bound) :
    items? bound (lead ++ (lines (depth + 1) texts ++ '\n' :: (indent depth ++ ']' :: tail))) =
      some (values, tail) := by
  induction h generalizing bound lead with
  | nil => exact absurd rfl hne
  | @cons text value texts values hv hrest ih =>
    obtain ⟨bound, rfl⟩ : ∃ b, bound = b + 1 := ⟨bound - 1, by omega⟩
    rw [items?, value?_append_blank hlead]
    cases hrest with
    | nil =>
      rw [lines_singleton] at hbound ⊢
      rw [hv.read bound _ (by omega) (by simp [Follows])]
      simp only [skipSpace_newline ']' (by decide)]
    | @cons next value' texts values hv' hrest =>
      rw [lines_cons_cons] at hbound ⊢
      simp only [List.length_append, List.length_cons] at hbound
      have hnext := ih (List.cons_ne_nil _ _) _ (blank_newline (depth + 1))
        (show _ < bound by omega)
      rw [List.append_assoc, hv.read bound _ (by omega) (by simp [Follows])]
      simp only [List.cons_append, List.append_assoc] at hnext ⊢
      simp only [skipSpace_cons (c := ',') (by decide), hnext, Option.map_some]

theorem prettyItems_eq_map (depth : Nat) (items : List Json) :
    prettyItems depth items = items.map (prettyAt depth) := by
  induction items with
  | nil => rfl
  | cons item rest ih => rw [prettyItems, ih, List.map_cons]

theorem value?_openBracket {c : Char} {others : List Char} (hskip : skipSpace text = c :: others)
    (hc : c ≠ ']') : value? (bound + 1) ('[' :: text) =
      (items? bound (c :: others)).map fun (items, rest) => (.array items, rest) := by
  rw [value?, skipSpace_cons (by decide)]
  simp only [hskip]
  split
  next heq => exact absurd (List.cons.inj heq).1 hc
  next => rfl

theorem reads_array {items values : List Json} (h : List.Forall₂ Reads items values) :
    Reads (.array items) (.array values) := by
  intro depth
  cases h with
  | nil =>
    have htext : (prettyAt depth (.array [])).toList = ['[', ']'] := by
      simp [prettyAt, prettyItems, block]
    rw [htext]
    refine ⟨⟨'[', [']'], rfl, rfl, by decide⟩, fun bound rest hbound _ => ?_⟩
    obtain ⟨bound, rfl⟩ : ∃ b, bound = b + 1 := ⟨bound - 1, by simp at hbound; omega⟩
    rfl
  | @cons item value items values hitem hitems =>
    have htexts : List.Forall₂ ReadsAs
        (((item :: items).map (prettyAt (depth + 1))).map String.toList) (value :: values) := by
      rw [List.map_map, List.forall₂_map_left_iff]
      exact (List.Forall₂.cons hitem hitems).imp fun _ _ hr => hr (depth + 1)
    have htext (rest : List Char) := @toList_block depth rest "[" "]" '[' ']'
      ((item :: items).map (prettyAt (depth + 1))) rfl rfl (List.cons_ne_nil _ _)
    obtain ⟨c, others, hfirst, hspace, hc⟩ := (hitem (depth + 1)).start
    obtain ⟨more, hlines⟩ := exists_lines_eq_cons (depth + 1) c others
      ((items.map (prettyAt (depth + 1))).map String.toList)
    rw [← hfirst, ← List.map_cons, ← List.map_cons] at hlines
    rw [prettyAt, prettyItems_eq_map]
    refine ⟨⟨'[', _, by simpa using htext [], rfl, by decide⟩, fun bound rest hbound _ => ?_⟩
    have hlength := congrArg List.length (htext [])
    simp only [List.length_cons, List.length_append, List.length_nil] at hlength
    obtain ⟨bound, rfl⟩ : ∃ b, bound = b + 1 := ⟨bound - 1, by omega⟩
    have hread := items?_lines htexts (List.cons_ne_nil _ _) [] rest nofun
      (show (lines (depth + 1) _).length < bound by omega)
    have hskip := skipSpace_append (blank_newline (depth + 1))
      (lines (depth + 1) (((item :: items).map (prettyAt (depth + 1))).map String.toList) ++
        '\n' :: (indent depth ++ ']' :: rest))
    simp only [hlines, List.cons_append, List.nil_append] at hskip hread
    rw [skipSpace_cons hspace] at hskip
    rw [htext rest, hlines, List.cons_append, value?_openBracket hskip hc, hread]
    rfl

/-! ## Objects -/

/-- Sets the fields that are read, one after the other. -/
def setFields (before fields : List (String × Json)) : List (String × Json) :=
  fields.foldl (fun before field => setField field.1 field.2 before) before

/-- A field is read in two steps: its key up to the colon, and its value after it. -/
theorem field_steps {field : String × Json} (h : ReadsAsField text field) {lead : List Char}
    (hlead : Blank lead) (hbound : text.length ≤ bound) (hrest : Follows rest) :
    ∃ after, string? bound (skipSpace (lead ++ (text ++ rest))) = some (field.1, ':' :: after) ∧
      value? bound after = some (field.2, rest) := by
  obtain ⟨s, value, rfl, hkey, hvalue⟩ := h
  have hlen := length_quoted s
  simp only [List.length_append, List.length_cons] at hbound
  refine ⟨' ' :: (value ++ rest), ?_, ?_⟩
  · have hskip : skipSpace (lead ++ ((quoted s).toList ++ ':' :: ' ' :: value ++ rest)) =
        (quoted s).toList ++ ':' :: ' ' :: (value ++ rest) := by
      rw [skipSpace_append hlead, toList_quoted, List.append_assoc, List.cons_append,
        skipSpace_cons (by decide)]
      simp
    rw [hskip, hkey]
    exact string?_quoted (by omega)
  · have hblank : Blank [' '] := List.forall_mem_singleton.2 rfl
    exact (value?_append_blank hblank bound _).trans (hvalue.read bound rest (by omega) hrest)

theorem fields?_last {field : String × Json} (h : ReadsAsField text field)
    {before : List (String × Json)} {lead tail : List Char} (hlead : Blank lead)
    (hbound : text.length ≤ bound) (hrest : Follows rest) (hend : skipSpace rest = '\x7d' :: tail) :
    fields? (bound + 1) before (lead ++ (text ++ rest)) =
      some (setField field.1 field.2 before, tail) := by
  obtain ⟨after, hkey, hvalue⟩ := field_steps h hlead hbound hrest
  rw [fields?, hkey]
  simp only [skipSpace_cons (c := ':') (by decide), hvalue, hend]

theorem fields?_next {field : String × Json} (h : ReadsAsField text field)
    {before : List (String × Json)} {lead tail : List Char} (hlead : Blank lead)
    (hbound : text.length ≤ bound) (hrest : Follows rest) (hcomma : skipSpace rest = ',' :: tail) :
    fields? (bound + 1) before (lead ++ (text ++ rest)) =
      fields? bound (setField field.1 field.2 before) tail := by
  obtain ⟨after, hkey, hvalue⟩ := field_steps h hlead hbound hrest
  rw [fields?, hkey]
  simp only [skipSpace_cons (c := ':') (by decide), hvalue, hcomma]

theorem fields?_lines {fields : List (String × Json)}
    (h : List.Forall₂ ReadsAsField texts fields) (hne : texts ≠ [])
    (before : List (String × Json)) (lead tail : List Char) (hlead : Blank lead)
    (hbound : (lines (depth + 1) texts).length < bound) :
    fields? bound before
        (lead ++ (lines (depth + 1) texts ++ '\n' :: (indent depth ++ '\x7d' :: tail))) =
      some (setFields before fields, tail) := by
  induction h generalizing bound lead before with
  | nil => exact absurd rfl hne
  | @cons text field texts fields hf hrest ih =>
    obtain ⟨bound, rfl⟩ : ∃ b, bound = b + 1 := ⟨bound - 1, by omega⟩
    cases hrest with
    | nil =>
      rw [lines_singleton] at hbound ⊢
      exact fields?_last hf hlead (by omega) (by simp [Follows])
        (skipSpace_newline '\x7d' (by decide) tail)
    | @cons next field' texts fields hf' hrest =>
      rw [lines_cons_cons] at hbound ⊢
      simp only [List.length_append, List.length_cons] at hbound
      have hnext := ih (List.cons_ne_nil _ _) (setField field.1 field.2 before) _
        (blank_newline (depth + 1)) (show _ < bound by omega)
      rw [List.append_assoc, List.cons_append, fields?_next hf hlead (by omega) (by simp [Follows])
        (skipSpace_cons (by decide) _)]
      simp only [List.cons_append, List.append_assoc] at hnext ⊢
      exact hnext

theorem prettyFields_eq_map (depth : Nat) (fields : List (String × Json)) :
    prettyFields depth fields =
      fields.map fun field => quoted field.1 ++ ": " ++ prettyAt depth field.2 := by
  induction fields with
  | nil => rfl
  | cons field rest ih => rw [prettyFields, ih, List.map_cons]

theorem value?_openBrace {c : Char} {others : List Char} (hskip : skipSpace text = c :: others)
    (hc : c ≠ '\x7d') : value? (bound + 1) ('\x7b' :: text) =
      (fields? bound [] (c :: others)).map fun (fields, rest) =>
        (.object (Record.inOrder fields), rest) := by
  rw [value?, skipSpace_cons (by decide)]
  simp only [hskip]
  split
  next heq => exact absurd (List.cons.inj heq).1 hc
  next => rfl

/-- The fields of an object are read one by one, and set in their order. -/
theorem reads_object {fields read : List (String × Json)} (hne : fields ≠ [])
    (h : List.Forall₂ (fun field value => value.1 = joined field.1 ∧ Reads field.2 value.2)
      fields read) : Reads (.object fields) (.object (Record.inOrder (setFields [] read))) := by
  intro depth
  have htexts : List.Forall₂ ReadsAsField
      ((prettyFields (depth + 1) fields).map String.toList) read := by
    rw [prettyFields_eq_map, List.map_map, List.forall₂_map_left_iff]
    refine h.imp fun field value hr => ?_
    exact ⟨field.1, (prettyAt (depth + 1) field.2).toList, by simp, hr.1, hr.2 (depth + 1)⟩
  have hitems : prettyFields (depth + 1) fields ≠ [] := by
    simpa [prettyFields_eq_map] using hne
  have htext (rest : List Char) :=
    @toList_block depth rest openBrace closeBrace '\x7b' '\x7d' _ rfl rfl hitems
  have hfirst : ∃ more, lines (depth + 1) ((prettyFields (depth + 1) fields).map String.toList) =
      '"' :: more := by
    cases fields with
    | nil => exact absurd rfl hne
    | cons field others =>
      rw [prettyFields, List.map_cons, String.toList_append, String.toList_append, toList_quoted]
      exact exists_lines_eq_cons _ _ _ _
  obtain ⟨more, hlines⟩ := hfirst
  rw [prettyAt]
  refine ⟨⟨'\x7b', _, by simpa using htext [], rfl, by decide⟩, fun bound rest hbound _ => ?_⟩
  have hlength := congrArg List.length (htext [])
  simp only [List.length_cons, List.length_append, List.length_nil] at hlength
  obtain ⟨bound, rfl⟩ : ∃ b, bound = b + 1 := ⟨bound - 1, by omega⟩
  have hread := fields?_lines htexts (by simpa using hitems) [] [] rest nofun
    (show (lines (depth + 1) _).length < bound by omega)
  have hskip := skipSpace_append (blank_newline (depth + 1))
    (lines (depth + 1) ((prettyFields (depth + 1) fields).map String.toList) ++
      '\n' :: (indent depth ++ '\x7d' :: rest))
  simp only [hlines, List.cons_append, List.nil_append] at hskip hread
  rw [skipSpace_cons (c := '"') (by decide)] at hskip
  rw [htext rest, hlines, List.cons_append, value?_openBrace hskip (by decide), hread]
  rfl

/-- Keys that stay in the order in which they are set: they differ, and none is a number. -/
def KeepOrder (keys : List String) : Prop :=
  keys.Nodup ∧ ∀ key ∈ keys, joined key = key ∧ Record.indexOf? key = none

instance (keys : List String) : Decidable (KeepOrder keys) :=
  inferInstanceAs (Decidable (_ ∧ _))

theorem setField_new {key : String} {value : Json} {before : List (String × Json)}
    (h : key ∉ before.map Prod.fst) : setField key value before = before ++ [(key, value)] := by
  induction before with
  | nil => rfl
  | cons field rest ih =>
    rw [List.map_cons, List.mem_cons, not_or] at h
    have hne : (field.1 == key) = false := by simpa using fun e => h.1 e.symm
    rw [setField, hne, ih h.2]
    rfl

theorem setFields_new {before fields : List (String × Json)}
    (h : ((before ++ fields).map Prod.fst).Nodup) : setFields before fields = before ++ fields := by
  induction fields generalizing before with
  | nil => exact (List.append_nil before).symm
  | cons field rest ih =>
    have hnew : field.1 ∉ before.map Prod.fst := by
      rw [List.map_append, List.map_cons, List.nodup_append] at h
      exact fun hmem => h.2.2 _ hmem _ List.mem_cons_self rfl
    rw [List.append_cons] at h ⊢
    rw [← ih h, setFields, List.foldl_cons, setField_new hnew]
    rfl

theorem inOrder_of_indexOf?_eq_none {fields : List (String × Json)}
    (h : ∀ field ∈ fields, Record.indexOf? field.1 = none) : Record.inOrder fields = fields := by
  have hindexed : Record.indexed fields = [] := by
    induction fields with
    | nil => rfl
    | cons field rest ih =>
      obtain ⟨hfield, hrest⟩ := List.forall_mem_cons.1 h
      rw [Record.indexed, hfield, ih hrest]
  have hall : fields.filter (fun field => (Record.indexOf? field.1).isNone) = fields :=
    List.filter_eq_self.2 fun field hf => by rw [h field hf]; rfl
  rw [Record.inOrder, hindexed, hall]
  rfl

/-- **A record is read field by field** where its keys keep their order. -/
theorem reads_record {fields read : List (String × Json)} (hne : fields ≠ [])
    (hkeys : KeepOrder (fields.map Prod.fst))
    (h : List.Forall₂ (fun field value => value.1 = field.1 ∧ Reads field.2 value.2) fields read) :
    Reads (.object fields) (.object read) := by
  have hnames : read.map Prod.fst = fields.map Prod.fst := by
    clear hne hkeys
    induction h with
    | nil => rfl
    | cons hfield _ ih => rw [List.map_cons, List.map_cons, hfield.1, ih]
  have hread : Record.inOrder (setFields [] read) = read := by
    rw [setFields_new (by rw [List.nil_append, hnames]; exact hkeys.1), List.nil_append]
    refine inOrder_of_indexOf?_eq_none fun field hf => (hkeys.2 field.1 ?_).2
    rw [← hnames]
    exact List.mem_map_of_mem hf
  rw [← hread]
  have hplain : ∀ field ∈ fields, joined field.1 = field.1 :=
    fun field hf => (hkeys.2 field.1 (List.mem_map_of_mem hf)).1
  exact reads_object hne (((List.forall₂_and_left _ _).2 ⟨hplain, h⟩).imp
    fun field value hfield => ⟨hfield.2.1.trans hfield.1.symm, hfield.2.2⟩)

/-! ## Whole texts -/

/-- **What is written is read back**, with the strings joined and the fields of objects in their
order. -/
theorem parse?_pretty {json read : Json} (h : Reads json read) :
    parse? json.pretty = some read := by
  have hread := (h 0).read (2 * json.pretty.length + 1) [] (by
    rw [String.length_toList]
    simp only [pretty]
    omega) (by simp [Follows])
  rw [List.append_nil] at hread
  rw [parse?, pretty]
  rw [pretty] at hread
  rw [hread]
  rfl

end RelStore.Json
