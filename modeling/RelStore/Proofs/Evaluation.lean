/-
What evaluations of conditions come to, told from their leaves.

Two evaluations of a condition, each with leaves of its own, correspond as soon as their leaves do, if
correspondence is kept when computations are put together alike (`Correspondence.eval`). A judgement on
one evaluation is the case in which nothing is asked of the other (`Judgement.eval`). So a condition
fails for the causes of its leaves, and for values of wrong types, but for nothing else.
-/
import RelStore.Proofs.Failing

namespace RelStore

open Sql

/-! ## Leaves -/

namespace Sql

mutual

/-- A condition without unknown nodes whose leaves are as they should be. -/
def Expr.LeavesHold (column : ColumnRef → Prop) (aggregate : AggregateCall → Prop) : Expr → Prop
  | .literal _ => True
  | .column ref => column ref
  | .aggregate call => aggregate call
  | .comparison _ left right | .and left right | .or left right =>
    left.LeavesHold column aggregate ∧ right.LeavesHold column aggregate
  | .not operand | .isNull operand _ | .like operand _ _ => operand.LeavesHold column aggregate
  | .between operand low high _ => operand.LeavesHold column aggregate ∧
      low.LeavesHold column aggregate ∧ high.LeavesHold column aggregate
  | .inList operand values _ =>
    operand.LeavesHold column aggregate ∧ AllLeavesHold column aggregate values
  | .unknown _ => False

def AllLeavesHold (column : ColumnRef → Prop) (aggregate : AggregateCall → Prop) : List Expr → Prop
  | [] => True
  | value :: rest => value.LeavesHold column aggregate ∧ AllLeavesHold column aggregate rest

end

end Sql

/-! ## Judgements -/

/-- Causes among which are values of wrong types. -/
structure AdmitsTypes (failing : Cause → Prop) : Prop where
  notACondition (v : Scalar) : failing (.notACondition v)
  incomparable (left right : DataType) : failing (.incomparable left right)

/-- Computations of two monads that are held against each other, in a way that is kept when they are
put together alike, and that may fail for some causes. -/
structure Correspondence (m n : Type → Type) [Monad m] [MonadExcept Cause m] [Monad n]
    [MonadExcept Cause n] (failing : Cause → Prop) where
  types : AdmitsTypes failing
  Holds : {α : Type} → m α → n α → Prop
  pure {α : Type} (a : α) : Holds (pure a) (pure a)
  throw {α : Type} {cause : Cause} : failing cause → Holds (throw cause : m α) (throw cause)
  bind {α β : Type} {x : m α} {y : n α} {f : α → m β} {k : α → n β} :
    Holds x y → (∀ a, Holds (f a) (k a)) → Holds (x >>= f) (y >>= k)

namespace Correspondence

variable {m n : Type → Type} [Monad m] [MonadExcept Cause m] [Monad n] [MonadExcept Cause n]
  {failing : Cause → Prop} (C : Correspondence m n failing) {leaves : Leaves m} {other : Leaves n}

/-- The leaves of a condition correspond. -/
abbrev LeavesOf (leaves : Leaves m) (other : Leaves n) (e : Expr) : Prop :=
  e.LeavesHold (fun ref => C.Holds (leaves.column ref) (other.column ref))
    fun call => C.Holds (leaves.aggregate call) (other.aggregate call)

theorem raised {α : Type} {x : Except Cause α} (h : FailsOnly failing x) :
    C.Holds (raised x : m α) (raised x : n α) := by
  cases x with
  | error cause => exact C.throw (h cause rfl)
  | ok a => exact C.pure a

theorem asTruth (v : Value) : C.Holds (Sql.raised v.asTruth : m Truth) (Sql.raised v.asTruth : n Truth) :=
  C.raised (.asTruth C.types.notACondition v)

mutual

/-- **Evaluations of a condition correspond** where its leaves do. -/
theorem eval : (e : Expr) → C.LeavesOf leaves other e → C.Holds (e.eval leaves) (e.eval other)
  | .literal value, _ => C.pure value
  | .column _, h => h
  | .aggregate _, h => h
  | .comparison op left right, h => by
    simp only [Expr.eval]
    refine C.bind (eval left h.1) fun v => C.bind (eval right h.2) fun w => ?_
    exact C.bind (C.raised (.apply C.types.incomparable op v w)) fun _ => C.pure _
  | .and left right, h => by
    simp only [Expr.eval]
    refine C.bind (eval left h.1) fun v => C.bind (C.asTruth v) fun t => ?_
    split
    · exact C.pure _
    · exact C.bind (eval right h.2) fun w => C.bind (C.asTruth w) fun _ => C.pure _
  | .or left right, h => by
    simp only [Expr.eval]
    refine C.bind (eval left h.1) fun v => C.bind (C.asTruth v) fun t => ?_
    split
    · exact C.pure _
    · exact C.bind (eval right h.2) fun w => C.bind (C.asTruth w) fun _ => C.pure _
  | .not operand, h => by
    simp only [Expr.eval]
    exact C.bind (eval operand h) fun v => C.bind (C.asTruth v) fun _ => C.pure _
  | .isNull operand _, h => by
    simp only [Expr.eval]
    exact C.bind (eval operand h) fun _ => C.pure _
  | .between operand low high _, h => by
    simp only [Expr.eval]
    refine C.bind (eval operand h.1) fun u => C.bind (eval low h.2.1) fun v => ?_
    refine C.bind (eval high h.2.2) fun w => ?_
    exact C.bind (C.raised (.isBetween C.types.incomparable u v w)) fun _ => C.pure _
  | .inList operand values _, h => by
    simp only [Expr.eval]
    refine C.bind (eval operand h.1) fun v => ?_
    cases v with
    | none => exact C.pure _
    | some probe => exact C.bind (evalMember _ _ values h.2) fun _ => C.pure _
  | .like operand _ _, h => by
    simp only [Expr.eval]
    refine C.bind (eval operand h) fun v => ?_
    cases v with
    | none => exact C.pure _
    | some v => exact C.pure _
  | .unknown _, h => h.elim

theorem evalMember (probe : Scalar) (sawNull : Bool) : (values : List Expr) →
    AllLeavesHold (fun ref => C.Holds (leaves.column ref) (other.column ref))
      (fun call => C.Holds (leaves.aggregate call) (other.aggregate call)) values →
    C.Holds (Sql.evalMember leaves probe sawNull values) (Sql.evalMember other probe sawNull values)
  | [], _ => C.pure _
  | candidate :: rest, h => by
    simp only [Sql.evalMember]
    refine C.bind (eval candidate h.1) fun v => ?_
    cases v with
    | none => exact evalMember probe true rest h.2
    | some v =>
      dsimp only
      split
      · exact C.pure _
      · exact evalMember probe sawNull rest h.2

end

theorem isSatisfied {condition : Option Expr} (h : ∀ e ∈ condition, C.LeavesOf leaves other e) :
    C.Holds (Sql.isSatisfied leaves condition) (Sql.isSatisfied other condition) := by
  cases condition with
  | none => exact C.pure _
  | some e =>
    refine C.bind ?_ fun _ => C.pure _
    exact C.bind (C.eval e (h e rfl)) fun v => C.asTruth v

end Correspondence

/-- Computations with a state correspond to those that they do the same as. -/
def Mirrors.correspondence {σ : Type} (keeps : σ → Prop) :
    Correspondence (StateT σ (Except Cause)) (Except Cause) fun _ => True where
  types := ⟨fun _ => trivial, fun _ _ => trivial⟩
  Holds := Mirrors keeps
  pure := .pure
  throw _ := .throw _
  bind hx hf := Mirrors.bind hx fun a _ => hf a

/-- A judgement on computations that can be put together as they are, and may fail for some
causes. -/
structure Judgement (m : Type → Type) [Monad m] [MonadExcept Cause m] (failing : Cause → Prop) where
  types : AdmitsTypes failing
  Holds : {α : Type} → m α → Prop
  pure {α : Type} (a : α) : Holds (pure a)
  throw {α : Type} {cause : Cause} : failing cause → Holds (throw cause : m α)
  bind {α β : Type} {x : m α} {f : α → m β} : Holds x → (∀ a, Holds (f a)) → Holds (x >>= f)

/-- The judgement that a computation fails for some causes only. -/
def Judgement.failsOnly {failing : Cause → Prop} (types : AdmitsTypes failing) :
    Judgement (Except Cause) failing where
  types := types
  Holds := FailsOnly failing
  pure := .pure
  throw h := .throw h
  bind hx hf := FailsOnly.bind hx fun a _ => hf a

/-- The same of computations that keep what holds of a state. -/
def Judgement.keeping {σ : Type} (keeps : σ → Prop) {failing : Cause → Prop}
    (types : AdmitsTypes failing) : Judgement (StateT σ (Except Cause)) failing where
  types := types
  Holds x := Runs keeps failing x fun _ => True
  pure _ := .pure trivial
  throw h := .throw h
  bind hx hf := Runs.bind hx fun a _ => hf a

namespace Judgement

variable {m : Type → Type} [Monad m] [MonadExcept Cause m] {failing : Cause → Prop}
  (J : Judgement m failing) {leaves : Leaves m}

/-- A judgement holds computations against any others. -/
def correspondence : Correspondence m m failing where
  types := J.types
  Holds x _ := J.Holds x
  pure := J.pure
  throw := J.throw
  bind := J.bind

/-- The leaves of a condition are judged well. -/
abbrev LeavesOf (leaves : Leaves m) (e : Expr) : Prop :=
  e.LeavesHold (fun ref => J.Holds (leaves.column ref)) fun call => J.Holds (leaves.aggregate call)

theorem raised {α : Type} {x : Except Cause α} (h : FailsOnly failing x) : J.Holds (raised x : m α) :=
  J.correspondence.raised h

theorem asTruth (v : Value) : J.Holds (Sql.raised v.asTruth : m Truth) := J.correspondence.asTruth v

/-- **The evaluation of a condition is judged well** where its leaves are. -/
theorem eval (e : Expr) (h : J.LeavesOf leaves e) : J.Holds (e.eval leaves) :=
  (J.correspondence.eval e h : J.correspondence.Holds (e.eval leaves) (e.eval leaves))

theorem evalMember (probe : Scalar) (sawNull : Bool) (values : List Expr)
    (h : AllLeavesHold (fun ref => J.Holds (leaves.column ref))
      (fun call => J.Holds (leaves.aggregate call)) values) :
    J.Holds (Sql.evalMember leaves probe sawNull values) :=
  (J.correspondence.evalMember probe sawNull values h :
    J.correspondence.Holds _ (Sql.evalMember leaves probe sawNull values))

theorem isSatisfied {condition : Option Expr} (h : ∀ e ∈ condition, J.LeavesOf leaves e) :
    J.Holds (Sql.isSatisfied leaves condition) :=
  (J.correspondence.isSatisfied h : J.correspondence.Holds _ (Sql.isSatisfied leaves condition))

end Judgement

end RelStore
