/-
Times as documents are marked with: date and time of day in UTC, down to milliseconds.

Days are counted from the first of March of the year zero, so that leap days come last: 146097
days make 400 years, and 153 days make five months from March on.
-/
namespace RelStore.Clock

structure Date where
  year : Nat
  month : Nat
  day : Nat
  deriving DecidableEq, Repr

/-- The days from the first of March of the year zero to the first of January 1970. -/
def daysBeforeEpoch : Nat := 719468

/-- The date a number of days after the first of January 1970. -/
def dateOf (days : Nat) : Date :=
  let count := days + daysBeforeEpoch
  let inCycle := count % 146097
  let yearInCycle := (inCycle - inCycle / 1460 + inCycle / 36524 - inCycle / 146096) / 365
  let inYear := inCycle - (365 * yearInCycle + yearInCycle / 4 - yearInCycle / 100)
  let fromMarch := (5 * inYear + 2) / 153
  let month := if fromMarch < 10 then fromMarch + 3 else fromMarch - 9
  { year := yearInCycle + count / 146097 * 400 + (if month ≤ 2 then 1 else 0)
    month := month
    day := inYear - (153 * fromMarch + 2) / 5 + 1 }

/-- A number with at least so many digits. -/
def padded (width : Nat) (n : Nat) : String :=
  let digits := toString n
  String.ofList (List.replicate (width - digits.length) '0') ++ digits

/-- The text of a time in milliseconds after the beginning of 1970. -/
def text (milliseconds : Nat) : String :=
  let seconds := milliseconds / 1000
  let date := dateOf (seconds / 86400)
  let days := String.intercalate "-" [padded 4 date.year, padded 2 date.month, padded 2 date.day]
  let time := String.intercalate ":"
    [padded 2 (seconds / 3600 % 24), padded 2 (seconds / 60 % 60), padded 2 (seconds % 60)]
  s!"{days}T{time}.{padded 3 (milliseconds % 1000)}Z"

example : dateOf 0 = ⟨1970, 1, 1⟩ ∧ dateOf 11016 = ⟨2000, 2, 29⟩ ∧ dateOf 20454 = ⟨2026, 1, 1⟩ := by
  decide

end RelStore.Clock
