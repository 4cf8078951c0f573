/-
Aggregates of a column over the rows of a group.

NULL counts for `COUNT(*)` only. Without other values SUM, AVG, MIN and MAX are NULL. A sum is
added up from left to right, each step rounded; of equal extremes the first is kept.
-/
import RelStore.Condition

namespace RelStore.Sql

/-- The sum of scalars, from left to right on top of what came before. -/
def sumFrom (fn : AggregateFn) : Binary64 → List Scalar → Except Cause Binary64
  | sum, [] => .ok sum
  | sum, .number n :: rest => sumFrom fn (sum.add n) rest
  | _, v :: _ => .error (.notANumber fn v.dataType)

/-- The least or greatest of scalars, kept against those that follow: `wanted` is the order in
which a better one stands to the best so far. -/
def extremeFrom (fn : AggregateFn) (wanted : Ordering) : Scalar → List Scalar → Except Cause Scalar
  | best, [] => .ok best
  | best, v :: rest =>
    match v.compare? best with
    | none => .error (.incomparableExtremes v.dataType best.dataType fn)
    | some order => extremeFrom fn wanted (if order = wanted then v else best) rest

/-- An aggregate of scalars. -/
def AggregateFn.ofScalars (fn : AggregateFn) (values : List Scalar) : Except Cause Value :=
  match fn, values with
  | .count, _ => .ok (Value.ofNat values.length)
  | _, [] => .ok none
  | .sum, _ => (sumFrom .sum 0 values).map fun sum => some (.number sum)
  | .avg, _ => (sumFrom .avg 0 values).map fun sum => some (.number (sum.divNat values.length))
  | .min, first :: rest => (extremeFrom .min .lt first rest).map some
  | .max, first :: rest => (extremeFrom .max .gt first rest).map some

/-- An aggregate of the values that the rows of a group have in its column; of whole rows, their
number. -/
def AggregateCall.compute (call : AggregateCall) (column : List Value) : Except Cause Value :=
  match call.argument with
  | none => .ok (Value.ofNat column.length)
  | some _ => call.fn.ofScalars (column.filterMap id)

end RelStore.Sql
