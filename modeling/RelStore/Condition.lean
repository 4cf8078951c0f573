/-
What conditions mean.

A condition is true, false or unknown (`Truth`). AND and OR read their right operand only if the
left one does not decide; IN stops at the first equal value. The leaves of a condition are read
through `Leaves`, in any monad that can fail: over a row, over a group, or with a record of what
was read.
-/
import RelStore.Error
import RelStore.Like

namespace RelStore

/-- True, false, or `none` for unknown. -/
abbrev Truth := Option Bool

namespace Truth

def and : Truth → Truth → Truth
  | some false, _ => some false
  | _, some false => some false
  | some true, some true => some true
  | _, _ => none

def or : Truth → Truth → Truth
  | some true, _ => some true
  | _, some true => some true
  | some false, some false => some false
  | _, _ => none

def not (t : Truth) : Truth := t.map (!·)

/-- The opposite if `negated`. -/
def flip (negated : Bool) (t : Truth) : Truth := if negated then t.not else t

def toValue (t : Truth) : Value := t.map .bool

end Truth

/-- A value used as a condition. -/
def Value.asTruth : Value → Except Cause Truth
  | none => .ok none
  | some (.bool b) => .ok (some b)
  | some v => .error (.notACondition v)

/-- The order of two scalars, which must be of one family. -/
def Scalar.order (a b : Scalar) : Except Cause Ordering :=
  match a.compare? b with
  | some o => .ok o
  | none => .error (.incomparable a.dataType b.dataType)

namespace Sql

/-- A comparison of scalars. Scalars of different families are unequal and in no order. -/
def CompareOp.holds (op : CompareOp) (a b : Scalar) : Except Cause Bool :=
  match op with
  | .eq => .ok (a.same b)
  | .bangEq | .ltGt => .ok (!a.same b)
  | .lt => (a.order b).map (· == .lt)
  | .gt => (a.order b).map (· == .gt)
  | .le => (a.order b).map (· != .gt)
  | .ge => (a.order b).map (· != .lt)

/-- A comparison of values: unknown if one is NULL. -/
def CompareOp.apply (op : CompareOp) : Value → Value → Except Cause Truth
  | some a, some b => (op.holds a b).map some
  | _, _ => .ok none

/-- Whether a value lies between two others. The upper bound counts only if the lower one
holds. -/
def isBetween : Value → Value → Value → Except Cause Truth
  | some v, some low, some high => do
    if (← v.order low) == .lt then return some false
    return some ((← v.order high) != .gt)
  | _, _, _ => .ok none

/-- How the leaves of a condition are read. -/
structure Leaves (m : Type → Type) where
  column : ColumnRef → m Value
  aggregate : AggregateCall → m Value

section

variable {m : Type → Type} [Monad m] [MonadExcept Cause m]

def raised {α : Type} : Except Cause α → m α
  | .ok a => pure a
  | .error cause => throw cause

mutual

/-- The value of a condition or operand. -/
def Expr.eval (leaves : Leaves m) : Expr → m Value
  | .literal value => pure value
  | .column ref => leaves.column ref
  | .aggregate call => leaves.aggregate call
  | .comparison op left right => do
    let a ← left.eval leaves
    let b ← right.eval leaves
    return (← raised (op.apply a b)).toValue
  | .and left right => do
    let a ← raised (← left.eval leaves).asTruth
    if a = some false then return Value.ofBool false
    let b ← raised (← right.eval leaves).asTruth
    return (a.and b).toValue
  | .or left right => do
    let a ← raised (← left.eval leaves).asTruth
    if a = some true then return Value.ofBool true
    let b ← raised (← right.eval leaves).asTruth
    return (a.or b).toValue
  | .not operand => do
    let a ← raised (← operand.eval leaves).asTruth
    return a.not.toValue
  | .isNull operand negated => do
    let v ← operand.eval leaves
    return Truth.toValue (Truth.flip negated (some v.isNone))
  | .between operand low high negated => do
    let v ← operand.eval leaves
    let a ← low.eval leaves
    let b ← high.eval leaves
    return ((← raised (isBetween v a b)).flip negated).toValue
  | .inList operand values negated => do
    match ← operand.eval leaves with
    | none => return none
    | some probe => return ((← evalMember leaves probe false values).flip negated).toValue
  | .like operand pattern negated => do
    match ← operand.eval leaves with
    | none => return none
    | some v => return Truth.toValue (Truth.flip negated (some (RelStore.like v.plain pattern)))
  | .unknown description => throw (.unknownExpression description)

/-- Whether a scalar equals one of the values. If none is equal, a NULL among them leaves it
open; `sawNull` says whether one came before. -/
def evalMember (leaves : Leaves m) (probe : Scalar) (sawNull : Bool) : List Expr → m Truth
  | [] => return if sawNull then none else some false
  | candidate :: rest => do
    match ← candidate.eval leaves with
    | none => evalMember leaves probe true rest
    | some v => if probe.same v then return some true else evalMember leaves probe sawNull rest

end

/-- The truth of a condition. -/
def Expr.truth (leaves : Leaves m) (e : Expr) : m Truth := do raised (← e.eval leaves).asTruth

/-- Whether a condition is exactly true. No condition is always satisfied. -/
def isSatisfied (leaves : Leaves m) : Option Expr → m Bool
  | none => return true
  | some e => return (← e.truth leaves) == some true

end

/-- What was read: a column or an aggregate. -/
inductive Leaf where
  | column (ref : ColumnRef)
  | aggregate (call : AggregateCall)
  deriving DecidableEq, Repr

def Leaf.text : Leaf → String
  | .column ref => ref.text
  | .aggregate call => call.text

/-- Evaluation that records the leaves it reads, in order, also when it fails. -/
abbrev Traced := ExceptT Cause (StateM (List Leaf))

/-- Leaves with known values that record each reading. -/
def tracedLeaves (valueOf : Leaf → Value) : Leaves Traced where
  column ref := do modify (· ++ [.column ref]); return valueOf (.column ref)
  aggregate call := do modify (· ++ [.aggregate call]); return valueOf (.aggregate call)

/-- The truth of a condition over known values, and the leaves read. -/
def Expr.traced (valueOf : Leaf → Value) (e : Expr) : Except Cause Truth × List Leaf :=
  (e.truth (tracedLeaves valueOf)).run.run []

end Sql

end RelStore
