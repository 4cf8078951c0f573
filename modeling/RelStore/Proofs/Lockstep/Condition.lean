/-
Conditions keep step over leaves that do.

What a condition does with values does not tell one zero from the other, so that over leaves that
are read in lockstep it is evaluated in lockstep (`inStep_eval`), whatever monad it is evaluated
in.
-/
import RelStore.Proofs.Lockstep

namespace RelStore

open Sql Lockstep

/-! ## Operators -/

section

variable {a b c d : Scalar} {u v w v' w' u' : Value}

theorem Scalar.Alike.order_eq (h : a.Alike b) (h' : c.Alike d) : a.order c = b.order d := by
  rw [Scalar.order, Scalar.order, h.compare?_eq h', h.dataType_eq, h'.dataType_eq]

theorem Sql.CompareOp.holds_eq (op : CompareOp) (h : a.Alike b) (h' : c.Alike d) :
    op.holds a c = op.holds b d := by
  cases op <;> simp only [holds, h.same_eq h', h.order_eq h']

theorem Sql.CompareOp.apply_eq_of_alike (op : CompareOp) (h : v.Alike v') (h' : w.Alike w') :
    op.apply v w = op.apply v' w' := by
  rcases h.rel with ha | _
  · rcases h'.rel with hb | _
    · simp only [apply, op.holds_eq ha hb]
    · rfl
  · rfl

theorem isBetween_eq_of_alike (hu : u.Alike u') (hv : v.Alike v') (hw : w.Alike w') :
    isBetween u v w = isBetween u' v' w' := by
  rcases hu.rel with ha | _
  · rcases hv.rel with hb | _
    · rcases hw.rel with hc | _
      · simp only [isBetween, ha.order_eq hb, ha.order_eq hc]
      · rfl
    · rfl
  · rfl

theorem ends_asTruth (h : v.Alike w) : Ends (· = ·) v.asTruth w.asTruth := by
  rcases h.eq_or_zeros with rfl | ⟨s, t, rfl, rfl⟩
  · exact .of_eq rfl
  · exact .error (.notACondition h)

end

/-! ## Conditions -/

section

variable {m : Type → Type} [Monad m] [MonadExcept Cause m] [Lockstep m] {leaves other : Leaves m}

/-- Leaves that are read in lockstep. -/
structure Sql.Leaves.Alike (leaves other : Leaves m) : Prop where
  column : ∀ ref, InStep Value.Alike (leaves.column ref) (other.column ref)
  aggregate : ∀ call, InStep Value.Alike (leaves.aggregate call) (other.aggregate call)

mutual

/-- **A condition is evaluated in lockstep.** -/
theorem inStep_eval (h : leaves.Alike other) :
    (e : Expr) → InStep Value.Alike (e.eval leaves) (e.eval other)
  | .literal value => pure (.refl value)
  | .column ref => h.column ref
  | .aggregate call => h.aggregate call
  | .comparison op left right => by
    simp only [Expr.eval]
    refine bind (inStep_eval h left) fun a b hab => bind (inStep_eval h right) fun c d hcd => ?_
    rw [op.apply_eq_of_alike hab hcd]
    exact bind (raised (.of_eq rfl)) fun t _ ht => pure (ht ▸ .refl t.toValue)
  | .and left right => by
    simp only [Expr.eval]
    refine bind (inStep_eval h left) fun a b hab => bind (raised (ends_asTruth hab)) ?_
    rintro t _ rfl
    split
    · exact pure (.refl _)
    · refine bind (inStep_eval h right) fun c d hcd => bind (raised (ends_asTruth hcd)) ?_
      rintro u _ rfl
      exact pure (.refl _)
  | .or left right => by
    simp only [Expr.eval]
    refine bind (inStep_eval h left) fun a b hab => bind (raised (ends_asTruth hab)) ?_
    rintro t _ rfl
    split
    · exact pure (.refl _)
    · refine bind (inStep_eval h right) fun c d hcd => bind (raised (ends_asTruth hcd)) ?_
      rintro u _ rfl
      exact pure (.refl _)
  | .not operand => by
    simp only [Expr.eval]
    refine bind (inStep_eval h operand) fun a b hab => bind (raised (ends_asTruth hab)) ?_
    rintro t _ rfl
    exact pure (.refl _)
  | .isNull operand negated => by
    simp only [Expr.eval]
    refine bind (inStep_eval h operand) fun a b hab => ?_
    rw [← Option.not_isSome, ← Option.not_isSome, hab.isSome_eq]
    exact pure (.refl _)
  | .between operand low high negated => by
    simp only [Expr.eval]
    refine bind (inStep_eval h operand) fun a b hab => bind (inStep_eval h low) fun c d hcd =>
      bind (inStep_eval h high) fun e f hef => ?_
    rw [isBetween_eq_of_alike hab hcd hef]
    exact bind (raised (.of_eq rfl)) fun t _ ht => pure (ht ▸ .refl _)
  | .inList operand values negated => by
    simp only [Expr.eval]
    refine bind (inStep_eval h operand) fun a b hab => ?_
    rcases hab.rel with hprobe | _
    · refine bind (inStep_evalMember h hprobe false values) fun t _ ht => ?_
      exact pure (ht ▸ .refl _)
    · exact pure (.refl none)
  | .like operand pattern negated => by
    simp only [Expr.eval]
    refine bind (inStep_eval h operand) fun a b hab => ?_
    rcases hab.rel with hscalar | _
    · simp only [hscalar.plain_eq]
      exact pure (.refl _)
    · exact pure (.refl none)
  | .unknown description => throw (.refl _)

theorem inStep_evalMember (h : leaves.Alike other) {probe probe' : Scalar}
    (hprobe : probe.Alike probe') (sawNull : Bool) : (es : List Expr) →
      InStep (· = ·) (evalMember leaves probe sawNull es) (evalMember other probe' sawNull es)
  | [] => pure rfl
  | candidate :: rest => by
    simp only [evalMember]
    refine bind (inStep_eval h candidate) fun a b hab => ?_
    rcases hab.rel with hscalar | _
    · simp only [hprobe.same_eq hscalar]
      split
      · exact pure rfl
      · exact inStep_evalMember h hprobe sawNull rest
    · exact inStep_evalMember h hprobe true rest

end

/-- **So is what makes a row or a group satisfy a condition.** -/
theorem inStep_isSatisfied (h : leaves.Alike other) (condition : Option Expr) :
    InStep (· = ·) (isSatisfied leaves condition) (isSatisfied other condition) := by
  cases condition with
  | none => exact pure rfl
  | some e =>
    refine bind (bind (inStep_eval h e) fun a b hab => raised (ends_asTruth hab)) ?_
    rintro t _ rfl
    exact pure rfl

end

end RelStore
