/-
One equality and one order of scalars.

Scalars are told apart in three ways: conditions ask whether they are equal, sorting and extremes
compare them, and indexes, DISTINCT and GROUP BY go by their keys. But for `nan`, which equals
nothing and has a key all the same, the three agree. Comparison is defined within a family and
nowhere else, and there it is a linear order up to this equality (`equality_and_order`): `AtMost` is
what `Less` and `Alike` come to (`atMost_iff`), so that its laws follow from theirs.
-/
import RelStore.Proofs.KeyText
import RelStore.Proofs.Sorting.Keys

namespace RelStore

open Sql (CompareOp)

namespace Scalar

/-- A scalar is compared with another, and does not come after it. -/
def AtMost (a b : Scalar) : Prop := a.compare? b = some .lt ∨ a.compare? b = some .eq

instance (a b : Scalar) : Decidable (a.AtMost b) := inferInstanceAs (Decidable (_ ∨ _))

variable {a b c : Scalar}

theorem Alike.family_eq (h : a.Alike b) : a.family = b.family := h.congr family rfl

theorem Less.family_eq (h : a.Less b) : a.family = b.family := by
  cases a <;> cases b <;> first | rfl | exact h.elim

/-- Less than a scalar that is alike, on either side. -/
theorem less_congr {a' b' : Scalar} (h : a.Alike a') (h' : b.Alike b') : a.Less b ↔ a'.Less b' := by
  have hbefore : Value.ComesBefore .asc (some a) (some b) = Value.ComesBefore .asc (some a') (some b') :=
    Value.comesBefore_congr h h'
  exact iff_of_eq hbefore

theorem compare?_eq_none_iff : a.compare? b = none ↔ a.family ≠ b.family := by
  cases a <;> cases b <;> simp [compare?, family]

theorem same_iff_alike (ha : a ≠ .number .nan) : a.same b = true ↔ a.Alike b :=
  Value.same_iff_key_eq (v := some a) (w := some b) fun hkey =>
    ha (Option.some.inj (Value.key_eq_nan_iff.1 hkey))

/-- Of scalars of one family the comparison says what `Less` and `Alike` say; of others it says
nothing, and neither holds. -/
theorem compare?_iff (ha : a ≠ .number .nan) (hb : b ≠ .number .nan) :
    (a.compare? b = some .lt ↔ a.Less b) ∧ (a.compare? b = some .eq ↔ a.Alike b) ∧
      (a.compare? b = some .gt ↔ b.Less a) := by
  by_cases hfamily : a.family = b.family
  · obtain ⟨order, horder, hlt, heq, hgt⟩ := tells_compare? hfamily ha hb
    rw [horder, Option.some.injEq, Option.some.injEq, Option.some.injEq]
    exact ⟨hlt, heq, hgt⟩
  · rw [compare?_eq_none_iff.2 hfamily]
    exact ⟨iff_of_false nofun fun h => hfamily h.family_eq, iff_of_false nofun fun h => hfamily h.family_eq,
      iff_of_false nofun fun h => hfamily h.family_eq.symm⟩

theorem atMost_iff (ha : a ≠ .number .nan) (hb : b ≠ .number .nan) :
    a.AtMost b ↔ a.Less b ∨ a.Alike b := by
  obtain ⟨hlt, heq, -⟩ := compare?_iff ha hb
  exact or_congr hlt heq

theorem compare?_swap (ha : a ≠ .number .nan) (hb : b ≠ .number .nan) :
    b.compare? a = (a.compare? b).map Ordering.swap := by
  obtain ⟨hlt, heq, hgt⟩ := compare?_iff ha hb
  obtain ⟨hlt', heq', hgt'⟩ := compare?_iff hb ha
  match horder : a.compare? b with
  | none => exact compare?_eq_none_iff.2 (compare?_eq_none_iff.1 horder).symm
  | some .lt => exact hgt'.2 (hlt.1 horder)
  | some .eq => exact heq'.2 (heq.1 horder).symm
  | some .gt => exact hlt'.2 (hgt.1 horder)

theorem atMost_or_atMost (ha : a ≠ .number .nan) (hb : b ≠ .number .nan) (h : a.family = b.family) :
    a.AtMost b ∨ b.AtMost a := by
  obtain ⟨order, horder⟩ := exists_compare? h
  cases order with
  | lt => exact .inl (.inl horder)
  | eq => exact .inl (.inr horder)
  | gt => exact .inr (.inl (by rw [compare?_swap ha hb, horder]; rfl))

theorem alike_of_atMost (ha : a ≠ .number .nan) (hb : b ≠ .number .nan) (hab : a.AtMost b)
    (hba : b.AtMost a) : a.Alike b := by
  rcases (atMost_iff ha hb).1 hab with hab | hab
  · rcases (atMost_iff hb ha).1 hba with hba | hba
    · exact absurd (hab.trans hba) (Less.irrefl a)
    · exact hba.symm
  · exact hab

theorem AtMost.trans (ha : a ≠ .number .nan) (hb : b ≠ .number .nan) (hc : c ≠ .number .nan)
    (hab : a.AtMost b) (hbc : b.AtMost c) : a.AtMost c := by
  rw [atMost_iff ha hc]
  rcases (atMost_iff ha hb).1 hab with hab | hab <;> rcases (atMost_iff hb hc).1 hbc with hbc | hbc
  · exact .inl (hab.trans hbc)
  · exact .inl ((less_congr (.refl a) hbc).1 hab)
  · exact .inl ((less_congr hab (.refl c)).2 hbc)
  · exact .inr (Eq.trans hab hbc)

/-- **Scalars have one equality and one order.** For scalars other than `nan`, equality in
conditions, equality in comparisons, equal key texts and equal keys of an index are one; the key text
of NULL is that of no scalar; scalars are compared exactly if they are of one family, turning a
comparison round turns its outcome round, and within a family the comparison is antisymmetric,
transitive and total. -/
theorem equality_and_order (ha : a ≠ .number .nan) (hb : b ≠ .number .nan) (hc : c ≠ .number .nan) :
    (CompareOp.eq.apply (some a) (some b) = .ok (some true) ↔ a.compare? b = some .eq) ∧
      (a.compare? b = some .eq ↔ Value.keyText (some a) = Value.keyText (some b)) ∧
      (a.compare? b = some .eq ↔ Value.key (some a) = Value.key (some b)) ∧
      (∀ v : Scalar, Value.keyText none ≠ Value.keyText (some v)) ∧
      (a.compare? b = none ↔ a.family ≠ b.family) ∧
      b.compare? a = (a.compare? b).map Ordering.swap ∧
      (a.AtMost b → b.AtMost a → a.compare? b = some .eq) ∧
      (a.AtMost b → b.AtMost c → a.AtMost c) ∧
      (a.family = b.family → a.AtMost b ∨ b.AtMost a) := by
  have heq : a.compare? b = some .eq ↔ a.Alike b := (compare?_iff ha hb).2.1
  have hholds : CompareOp.eq.apply (some a) (some b) = .ok (some true) ↔ a.same b = true := by
    show Except.ok (some (a.same b)) = Except.ok (some true) ↔ a.same b = true
    rw [Except.ok.injEq, Option.some.injEq]
  refine ⟨hholds.trans ((same_iff_alike ha).trans heq.symm), heq.trans Value.keyText_eq_iff.symm, heq,
    fun v => (Value.keyText_ne_null v).symm, compare?_eq_none_iff, compare?_swap ha hb, ?_, ?_, ?_⟩
  · exact fun hab hba => heq.2 (alike_of_atMost ha hb hab hba)
  · exact AtMost.trans ha hb hc
  · exact atMost_or_atMost ha hb

/-- The zeros and one. -/
theorem equality_and_order_zeros :
    (zero true ≠ .number .nan ∧ zero false ≠ .number .nan ∧ .number (.ofNat 1) ≠ Scalar.number .nan) ∧
      (zero true).compare? (zero false) = some .eq ∧
      Value.keyText (some (zero true)) = Value.keyText (some (zero false)) ∧
      (zero true).AtMost (.number (.ofNat 1)) := by
  have hone : Scalar.number (.ofNat 1) ≠ .number .nan := nofun
  obtain ⟨hequal, htext, -, -, -, -, -, htrans, -⟩ :=
    equality_and_order (a := zero true) (b := zero false) (c := .number (.ofNat 1)) nofun nofun hone
  have hzeros : (zero true).compare? (zero false) = some .eq := hequal.1 rfl
  refine ⟨⟨nofun, nofun, hone⟩, hzeros, htext.1 hzeros, htrans (.inr hzeros) (.inl ?_)⟩
  decide +kernel

end Scalar

end RelStore
