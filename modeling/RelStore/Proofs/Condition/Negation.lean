/-
Negation pushed inward.

NOT before a condition is the same as the opposite condition, which has the other connectives, the
opposite comparisons and the other flags (`Expr.negated`). The two agree in more than their truth:
they read the same leaves in the same order, stop at the same operand, and fail for the same cause.
So the equation is one between computations (`truth_negated`), in every monad in which nothing comes
after a failure.
-/
import RelStore.Proofs.Condition.Connectives

namespace RelStore.Sql

/-! ## Opposite conditions -/

def CompareOp.negated : CompareOp → CompareOp
  | .eq => .ltGt
  | .bangEq | .ltGt => .eq
  | .lt => .ge
  | .ge => .lt
  | .gt => .le
  | .le => .gt

/-- The opposite of a condition, with NOT before single operands only. -/
def Expr.negated : Expr → Expr
  | .and left right => .or left.negated right.negated
  | .or left right => .and left.negated right.negated
  | .not operand => operand
  | .comparison op left right => .comparison op.negated left right
  | .isNull operand negated => .isNull operand (!negated)
  | .between operand low high negated => .between operand low high (!negated)
  | .inList operand values negated => .inList operand values (!negated)
  | .like operand pattern negated => .like operand pattern (!negated)
  | e => .not e

/-! ## Failures -/

/-- A monad in which nothing comes after a failure. -/
class Aborting (m : Type → Type) [Monad m] [MonadExcept Cause m] : Prop extends LawfulMonad m where
  throw_bind {α β : Type} (cause : Cause) (f : α → m β) : (throw cause : m α) >>= f = throw cause

instance : Aborting (Except Cause) where
  throw_bind _ _ := rfl

instance {σ : Type} : Aborting (StateT σ (Except Cause)) where
  throw_bind _ _ := rfl

instance : Aborting Traced where
  throw_bind _ _ := rfl

section

variable {m : Type → Type} [Monad m] [MonadExcept Cause m] [Aborting m] {leaves : Leaves m}

theorem raised_map {α β : Type} (f : α → β) (x : Except Cause α) :
    (raised (x.map f) : m β) = f <$> raised x := by
  cases x with
  | ok a => exact (map_pure f a).symm
  | error cause =>
    rw [map_eq_pure_bind]
    exact (Aborting.throw_bind cause _).symm

/-! ## Negation -/

/-- Of two scalars the opposite comparison holds exactly if the comparison does not; if they have no
order, neither can be made. -/
theorem CompareOp.holds_negated (op : CompareOp) (a b : Scalar) :
    op.negated.holds a b = (op.holds a b).map (!·) := by
  have hmap (f g : Ordering → Bool) (h : ∀ o, f o = !g o) :
      (a.order b).map f = ((a.order b).map g).map (!·) := by
    cases a.order b with
    | ok o => exact congrArg Except.ok (h o)
    | error cause => rfl
  cases op with
  | eq => rfl
  | bangEq | ltGt => exact congrArg Except.ok (Bool.not_not _).symm
  | lt | gt | le | ge => exact hmap _ _ (by decide)

theorem CompareOp.apply_negated (op : CompareOp) (v w : Value) :
    op.negated.apply v w = (op.apply v w).map Truth.not := by
  match v, w with
  | none, _ | some _, none => rfl
  | some a, some b =>
    simp only [CompareOp.apply, op.holds_negated]
    cases op.holds a b <;> rfl

/-- **The opposite of a condition** is evaluated as the condition is, and has the opposite truth. -/
theorem Expr.truth_negated : (e : Expr) → e.negated.truth leaves = Truth.not <$> e.truth leaves
  | .and left right => by
    rw [negated, truth_or, truth_and, truth_negated left, truth_negated right, bind_map_left,
      map_bind]
    refine bind_congr fun a => ?_
    -- OR stops at true where AND stops at false
    simp only [apply_ite (Truth.not <$> ·), map_pure, Functor.map_map, Truth.not_eq_true,
      Truth.not_and]
    rfl
  | .or left right => by
    rw [negated, truth_and, truth_or, truth_negated left, truth_negated right, bind_map_left,
      map_bind]
    refine bind_congr fun a => ?_
    simp only [apply_ite (Truth.not <$> ·), map_pure, Functor.map_map, Truth.not_eq_false,
      Truth.not_or]
    rfl
  | .not operand => by
    rw [negated, truth_not, Functor.map_map]
    simp only [Truth.not_not, id_map']
  | .comparison op left right => by
    rw [negated, truth_comparison, truth_comparison]
    simp only [map_bind, op.apply_negated, raised_map]
  | .isNull operand flag => by
    rw [negated, truth_isNull, truth_isNull, Functor.map_map]
    simp only [Truth.not_flip]
  | .between operand low high flag => by
    rw [negated, truth_between, truth_between]
    simp only [map_bind, Functor.map_map, Truth.not_flip]
  | .inList operand values flag => by
    rw [negated, truth_inList, truth_inList, map_bind]
    refine bind_congr fun v => ?_
    cases v with
    | none => exact (map_pure Truth.not none).symm
    | some probe => simp only [Functor.map_map, Truth.not_flip]
  | .like operand pattern flag => by
    rw [negated, truth_like, truth_like, Functor.map_map]
    refine congrArg (· <$> _) (funext fun v => ?_)
    cases v with
    | none => rfl
    | some s => exact (Truth.not_flip flag _).symm
  | .literal _ | .column _ | .aggregate _ | .unknown _ => truth_not _

end

/-- **Negation can be pushed inward.** For every condition and all values of columns and aggregates,
NOT before the condition and the opposite condition have the same truth or fail for the same cause,
and read the same columns and aggregates in the same order. -/
theorem Expr.traced_not_eq_traced_negated (e : Expr) (valueOf : Leaf → Value) :
    (Expr.not e).traced valueOf = e.negated.traced valueOf := by
  rw [traced, traced, truth_not, truth_negated]

end RelStore.Sql
