/-
The truth of a condition from the truth of its parts.

A condition evaluates to a value, of which a connective takes the truth. Between two connectives the
value in the middle makes no difference (`raised_asTruth_toValue`), so that each form of a condition
has an equation for its truth that speaks of truth only.
-/
import RelStore.Condition

namespace RelStore

/-! ## Three truth values -/

namespace Truth

theorem not_not (t : Truth) : t.not.not = t := by
  rcases t with _ | _ | _ <;> rfl

theorem not_flip (negated : Bool) (t : Truth) : (flip negated t).not = flip (!negated) t := by
  cases negated with
  | false => rfl
  | true => exact not_not t

theorem not_and (a b : Truth) : (a.and b).not = a.not.or b.not := by
  rcases a with _ | _ | _ <;> rcases b with _ | _ | _ <;> rfl

theorem not_or (a b : Truth) : (a.or b).not = a.not.and b.not := by
  rcases a with _ | _ | _ <;> rcases b with _ | _ | _ <;> rfl

theorem not_eq_true {t : Truth} : t.not = some true ↔ t = some false := by
  rcases t with _ | _ | _ <;> decide

theorem not_eq_false {t : Truth} : t.not = some false ↔ t = some true := by
  rcases t with _ | _ | _ <;> decide

theorem or_assoc (a b c : Truth) : (a.or b).or c = a.or (b.or c) := by
  rcases a with _ | _ | _ <;> rcases b with _ | _ | _ <;> rcases c with _ | _ | _ <;> rfl

theorem and_assoc (a b c : Truth) : (a.and b).and c = a.and (b.and c) := by
  rcases a with _ | _ | _ <;> rcases b with _ | _ | _ <;> rcases c with _ | _ | _ <;> rfl

@[simp] theorem false_or (t : Truth) : or (some false) t = t := by
  rcases t with _ | _ | _ <;> rfl

@[simp] theorem true_or (t : Truth) : or (some true) t = some true := by
  rcases t with _ | _ | _ <;> rfl

@[simp] theorem or_false (t : Truth) : or t (some false) = t := by
  rcases t with _ | _ | _ <;> rfl

@[simp] theorem or_true (t : Truth) : or t (some true) = some true := by
  rcases t with _ | _ | _ <;> rfl

@[simp] theorem true_and (t : Truth) : and (some true) t = t := by
  rcases t with _ | _ | _ <;> rfl

@[simp] theorem asTruth_toValue (t : Truth) : t.toValue.asTruth = .ok t := by
  rcases t with _ | _ <;> rfl

end Truth

/-! ## Conditions -/

namespace Sql

section

variable {m : Type → Type} [Monad m] [MonadExcept Cause m] {leaves : Leaves m}

theorem raised_asTruth_toValue (t : Truth) : (raised t.toValue.asTruth : m Truth) = pure t := by
  rw [Truth.asTruth_toValue, raised]

namespace Expr

variable [LawfulMonad m]

/-- A condition has the truth that its value stands for. -/
theorem truth_of_eval {e : Expr} {t : m Truth} (h : e.eval leaves = t >>= fun a => pure a.toValue) :
    e.truth leaves = t := by
  simp only [truth, h, bind_assoc, pure_bind, raised_asTruth_toValue, bind_pure]

theorem truth_comparison (op : CompareOp) (left right : Expr) :
    (comparison op left right).truth leaves =
      left.eval leaves >>= fun a => right.eval leaves >>= fun b => raised (op.apply a b) := by
  refine truth_of_eval ?_
  simp only [bind_assoc]
  rfl

/-- What AND gives, of which the right operand is not read where the left one is false. -/
theorem truth_and (left right : Expr) : (and left right).truth leaves =
    left.truth leaves >>= fun a =>
      if a = some false then pure (some false) else a.and <$> right.truth leaves := by
  refine truth_of_eval ?_
  simp only [truth, bind_assoc, map_eq_pure_bind]
  refine (bind_congr fun v => bind_congr fun a => ?_).symm
  split
  · exact pure_bind _ _
  · simp only [bind_assoc, pure_bind]

/-- What OR gives, of which the right operand is not read where the left one is true. -/
theorem truth_or (left right : Expr) : (or left right).truth leaves =
    left.truth leaves >>= fun a =>
      if a = some true then pure (some true) else a.or <$> right.truth leaves := by
  refine truth_of_eval ?_
  simp only [truth, bind_assoc, map_eq_pure_bind]
  refine (bind_congr fun v => bind_congr fun a => ?_).symm
  split
  · exact pure_bind _ _
  · simp only [bind_assoc, pure_bind]

theorem truth_not (operand : Expr) :
    (not operand).truth leaves = Truth.not <$> operand.truth leaves := by
  refine truth_of_eval ?_
  simp only [truth, bind_assoc, map_eq_pure_bind, pure_bind]
  rfl

theorem truth_isNull (operand : Expr) (negated : Bool) :
    (isNull operand negated).truth leaves =
      (fun v => Truth.flip negated (some v.isNone)) <$> operand.eval leaves := by
  refine truth_of_eval ?_
  simp only [bind_assoc, map_eq_pure_bind, pure_bind]
  rfl

theorem truth_between (operand low high : Expr) (negated : Bool) :
    (between operand low high negated).truth leaves =
      operand.eval leaves >>= fun v => low.eval leaves >>= fun a => high.eval leaves >>= fun b =>
        Truth.flip negated <$> raised (isBetween v a b) := by
  refine truth_of_eval ?_
  simp only [bind_assoc, map_eq_pure_bind, pure_bind]
  rfl

theorem truth_inList (operand : Expr) (values : List Expr) (negated : Bool) :
    (inList operand values negated).truth leaves = operand.eval leaves >>= fun
      | none => pure none
      | some probe => Truth.flip negated <$> evalMember leaves probe false values := by
  refine truth_of_eval ?_
  rw [bind_assoc]
  refine (bind_congr fun v => ?_).symm
  cases v with
  | none => exact pure_bind _ _
  | some probe => simp only [bind_assoc, map_eq_pure_bind, pure_bind]

theorem truth_like (operand : Expr) (pattern : String) (negated : Bool) :
    (like operand pattern negated).truth leaves =
      (fun v : Value => v.bind fun s => Truth.flip negated (some (RelStore.like s.plain pattern)))
        <$> operand.eval leaves := by
  refine truth_of_eval ?_
  simp only [bind_assoc, map_eq_pure_bind, pure_bind]
  refine (bind_congr fun v => ?_).symm
  cases v <;> rfl

end Expr

end

end Sql

end RelStore
