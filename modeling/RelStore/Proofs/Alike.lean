/-
Values and rows that are alike: that differ in the signs of zeros at most.

Values are alike if they have one key. Rows are alike if they have alike values under the same
names, and then they are read and changed alike (`Row.Alike.get`, `Row.Alike.set`).
-/
import Mathlib.Data.List.Forall2
import RelStore.Proofs.Row
import RelStore.Proofs.Value

namespace RelStore

/-- Zero with either sign. -/
def Scalar.zero (negative : Bool) : Scalar := .number (.signed negative ⟨0, Nat.succ_pos _⟩)

/-- One value, where both zeros are one. -/
def Value.Alike (v w : Value) : Prop := v.key = w.key

theorem Binary64.place_eq_iff {negative other : Bool} {a b : Nat} :
    place negative a = place other b ↔ a = b ∧ (a = 0 ∨ negative = other) := by
  cases negative <;> cases other <;> simp only [place_false, place_true] <;> simp <;> omega

namespace Value.Alike

variable {u v w : Value} {t : DataType}

theorem refl (v : Value) : v.Alike v := rfl

theorem symm (h : v.Alike w) : w.Alike v := Eq.symm h

theorem trans (h : u.Alike v) (h' : v.Alike w) : u.Alike w := Eq.trans h h'

theorem eq_none_iff (h : v.Alike w) : v = none ↔ w = none := by
  rw [← key_eq_null_iff, ← key_eq_null_iff, h]

theorem isSome_eq (h : v.Alike w) : v.isSome = w.isSome := by
  rw [Bool.eq_iff_iff, Option.isSome_iff_ne_none, Option.isSome_iff_ne_none, ne_eq, ne_eq,
    h.eq_none_iff]

/-- Alike values are equal, or zeros. -/
theorem eq_or_zeros (h : v.Alike w) :
    v = w ∨ ∃ a b, v = some (.zero a) ∧ w = some (.zero b) := by
  rcases v with _ | ⟨_ | ⟨s, a⟩⟩ | _ | _ <;> rcases w with _ | ⟨_ | ⟨t, b⟩⟩ | _ | _
  case some.number.signed.some.number.signed =>
    obtain ⟨hrank, hsign⟩ := Binary64.place_eq_iff.1 (Key.number.inj h)
    obtain rfl := Fin.ext hrank
    rcases hsign with hzero | rfl
    · obtain rfl : a = ⟨0, Nat.succ_pos _⟩ := Fin.ext hzero
      exact .inr ⟨s, t, rfl, rfl⟩
    · exact .inl rfl
  all_goals simp_all [Alike, key]

/-- What does not tell one zero from the other does not tell alike values from each other. -/
theorem congr {β : Type} (h : v.Alike w) (f : Value → β)
    (hzero : f (some (.zero true)) = f (some (.zero false))) : f v = f w := by
  rcases h.eq_or_zeros with rfl | ⟨a, b, rfl, rfl⟩
  · rfl
  · cases a <;> cases b <;> simp only [hzero]

theorem conforms_eq (h : v.Alike w) (t : DataType) : v.conforms t = w.conforms t :=
  h.congr (·.conforms t) (by cases t <;> rfl)

theorem keyText_eq (h : v.Alike w) : v.keyText = w.keyText :=
  h.congr keyText rfl

theorem shown_eq (h : v.Alike w) : v.shown = w.shown :=
  h.congr shown rfl

theorem typeName_eq (h : v.Alike w) : v.typeName = w.typeName :=
  h.congr typeName rfl

end Value.Alike

/-! ## Scalars -/

/-- One scalar, where both zeros are one. -/
def Scalar.Alike (a b : Scalar) : Prop := Value.Alike (some a) (some b)

namespace Scalar.Alike

variable {a b c d : Scalar}

theorem refl (a : Scalar) : a.Alike a := rfl

theorem congr {β : Type} (h : a.Alike b) (f : Scalar → β)
    (hzero : f (.zero true) = f (.zero false)) : f a = f b := by
  rcases h.eq_or_zeros with heq | ⟨s, t, ha, hb⟩
  · rw [Option.some.inj heq]
  · rw [Option.some.inj ha, Option.some.inj hb]
    cases s <;> cases t <;> simp only [hzero]

theorem dataType_eq (h : a.Alike b) : a.dataType = b.dataType :=
  h.congr dataType rfl

theorem plain_eq (h : a.Alike b) : a.plain = b.plain :=
  h.congr plain rfl

theorem jsonText_eq (h : a.Alike b) : a.jsonText = b.jsonText :=
  h.congr jsonText rfl

theorem compare?_eq (h : a.Alike b) (h' : c.Alike d) : a.compare? c = b.compare? d := by
  refine (h.congr (·.compare? c) ?_).trans (h'.congr (b.compare? ·) ?_)
  · rcases c with ⟨_ | _⟩ | _ | _ <;> rfl
  · rcases b with ⟨_ | _⟩ | _ | _ <;> rfl

theorem same_eq (h : a.Alike b) (h' : c.Alike d) : a.same c = b.same d := by
  refine (h.congr (·.same c) ?_).trans (h'.congr (b.same ·) ?_)
  · rcases c with ⟨_ | _⟩ | _ | _ <;> simp [same, zero, Binary64.eq]
  · rcases b with ⟨_ | _⟩ | _ | _ <;> simp [same, zero, Binary64.eq]

end Scalar.Alike

/-- Alike values are both NULL, or scalars that are alike. -/
theorem Value.Alike.rel {v w : Value} (h : v.Alike w) : Option.Rel Scalar.Alike v w := by
  rcases v with _ | a
  · rw [h.eq_none_iff.1 rfl]
    exact .none
  · rcases w with _ | b
    · cases h.eq_none_iff.2 rfl
    · exact .some h

theorem Value.Alike.same_eq {v w v' w' : Value} (h : v.Alike v') (h' : w.Alike w') :
    v.same w = v'.same w' := by
  rcases h.rel with ha | _
  · rcases h'.rel with hb | _
    · exact ha.same_eq hb
    · rfl
  · rcases h'.rel with hb | _
    · rfl
    · rfl

/-! ## Rows -/

/-- The same names with alike values. -/
def Row.Alike (row other : Row) : Prop :=
  List.Forall₂ (fun a b => a.1 = b.1 ∧ Value.Alike a.2 b.2) row.fields other.fields

namespace Row.Alike

variable {row other : Row} {name : String} {v w : Value}

theorem refl (row : Row) : row.Alike row := List.forall₂_same.2 fun _ _ => ⟨rfl, .refl _⟩

theorem get? (h : row.Alike other) (name : String) :
    Option.Rel Value.Alike (row.get? name) (other.get? name) := by
  obtain ⟨fields⟩ := row
  obtain ⟨others⟩ := other
  simp only [Row.Alike, Row.get?] at h ⊢
  induction h with
  | nil => exact .none
  | @cons a b fields others hab _ ih =>
    obtain ⟨key, value⟩ := a
    obtain ⟨_, _⟩ := b
    obtain ⟨rfl, hv⟩ := hab
    cases hkey : name == key with
    | true => simpa only [List.lookup_cons, hkey] using .some hv
    | false => simpa only [List.lookup_cons, hkey] using ih

theorem get (h : row.Alike other) (name : String) : (row.get name).Alike (other.get name) := by
  have hget := h.get? name
  rw [Row.get, Row.get]
  revert hget
  generalize row.get? name = v, other.get? name = w
  rintro (h | _)
  · exact h
  · exact .refl none

theorem set (h : row.Alike other) (hv : v.Alike w) (name : String) :
    (row.set name v).Alike (other.set name w) := by
  obtain ⟨fields⟩ := row
  obtain ⟨others⟩ := other
  simp only [Row.Alike, Row.set] at h ⊢
  induction h with
  | nil => exact .cons ⟨rfl, hv⟩ .nil
  | @cons a b fields others hab hrest ih =>
    obtain ⟨key, value⟩ := a
    obtain ⟨_, _⟩ := b
    obtain ⟨rfl, hvalue⟩ := hab
    rw [setField, setField]
    split
    · exact .cons ⟨rfl, hv⟩ hrest
    · exact .cons ⟨rfl, hvalue⟩ ih

end Row.Alike

namespace Row

variable {row other : Row} {name : String} {value : Value}

theorem get_of_mem (hnodup : row.names.Nodup) (hmem : (name, value) ∈ row.fields) :
    row.get name = value := by
  obtain ⟨fields⟩ := row
  simp only [names, get, get?] at hnodup hmem ⊢
  induction fields with
  | nil => cases hmem
  | cons field rest ih =>
    rw [List.map_cons, List.nodup_cons] at hnodup
    rcases List.mem_cons.1 hmem with rfl | hmem
    · rw [List.lookup_cons_self]
      rfl
    · have hne : (name == field.1) = false :=
        beq_eq_false_iff_ne.2 fun heq => hnodup.1 (heq ▸ List.mem_map_of_mem hmem)
      rw [List.lookup_cons, hne]
      exact ih hnodup.2 hmem

/-- A row of different names is what it holds under them. -/
theorem fields_eq (hnodup : row.names.Nodup) :
    row.fields = row.names.map fun name => (name, row.get name) := by
  rw [names, List.map_map]
  exact (List.map_id _).symm.trans (List.map_congr_left fun field hf =>
    Prod.ext rfl (get_of_mem hnodup hf).symm)

theorem alike_of_get (hnodup : row.names.Nodup) (hnames : row.names = other.names)
    (h : ∀ name ∈ row.names, (row.get name).Alike (other.get name)) : row.Alike other := by
  have hother : other.names.Nodup := hnames ▸ hnodup
  rw [Row.Alike, fields_eq hnodup, fields_eq hother, ← hnames, List.forall₂_map_left_iff,
    List.forall₂_map_right_iff]
  exact List.forall₂_same.2 fun name hname => ⟨rfl, h name hname⟩

end Row

end RelStore
