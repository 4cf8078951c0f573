/-
Which values count as one: NULL and NULL, and scalars that are equal, as the two zeros are.

Indexes go by `Value.key` instead. For the values that columns take the two agree
(`same_iff_key_eq`); they differ for `nan` only, which has a key and equals nothing, and which no
column takes (`key_ne_nan`): columns take finite numbers only (`finite_of_conforms`).
-/
import RelStore.Value

namespace RelStore

theorem Binary64.isFinite_of_isSafeInteger {n : Binary64} (h : n.isSafeInteger = true) :
    n.isFinite = true := by
  cases hfinite : n.isFinite with
  | true => rfl
  | false =>
    rw [isSafeInteger, toInt?, hfinite] at h
    cases h

/-- A scalar that is no number, or a finite one. -/
def Scalar.Finite (v : Scalar) : Prop := ∀ n, v = .number n → n.isFinite = true

theorem Scalar.Finite.ne_nan {v : Scalar} (h : v.Finite) : v ≠ .number .nan := by
  rintro rfl
  cases h _ rfl

namespace Value

/-- NULL, or a scalar that is no number or a finite one. -/
def Finite (v : Value) : Prop := ∀ s ∈ v, s.Finite

theorem Finite.ne_nan {v : Value} (h : v.Finite) : v ≠ some (.number .nan) := by
  rintro rfl
  exact (h _ rfl).ne_nan rfl

theorem finite_of_conforms {v : Value} {type : DataType} (h : v.conforms type = true) : v.Finite := by
  rintro s rfl n rfl
  cases type with
  | int => exact Binary64.isFinite_of_isSafeInteger h
  | float => exact h
  | string => cases h
  | bool => cases h

theorem key_eq_nan_iff {v : Value} : v.key = .nan ↔ v = some (.number .nan) := by
  rcases v with _ | ⟨_ | _⟩ | _ | _ <;> simp [key]

theorem key_ne_nan {v : Value} {t : DataType} (h : v.conforms t = true) : v.key ≠ .nan :=
  fun hnan => (finite_of_conforms h).ne_nan (key_eq_nan_iff.1 hnan)

def same : Value → Value → Bool
  | none, none => true
  | some a, some b => a.same b
  | _, _ => false

theorem same_iff_key_eq {v w : Value} (h : v.key ≠ .nan) : v.same w = true ↔ v.key = w.key := by
  rcases v with _ | ⟨_ | ⟨s, r⟩⟩ | _ | _
  case some.number.nan => exact absurd rfl h
  all_goals rcases w with _ | ⟨_ | ⟨t, q⟩⟩ | _ | _ <;>
    simp [same, key, Scalar.same, Binary64.eq]

/-- NULL shares its key with no other value. -/
theorem ne_none_of_key_eq {v w : Value} (h : v.key = w.key) (hv : v ≠ none) : w ≠ none := by
  rw [ne_eq, ← key_eq_null_iff] at hv ⊢
  rwa [← h]

theorem same_iff_of_conforms {v w : Value} {t : DataType} (h : v.conforms t = true) :
    v.same w = true ↔ v.key = w.key :=
  same_iff_key_eq (key_ne_nan h)

end Value

end RelStore
