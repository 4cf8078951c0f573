/-
LIKE: patterns with `%` for any run of units and `_` for any one unit.

Pattern and text are gone through side by side. A `%` stands for nothing at first; where pattern
and text part, the last `%` takes one unit more, and what comes after it is tried again from there.
A `%` before the last is not gone back to: what came between the two was found as far left as
possible, so that the last can stand for all that an earlier one could. `InPattern` states what a
pattern stands for, unit by unit. Text and pattern are compared in lower case.
-/
import RelStore.Text.Case
import RelStore.Text.Units

namespace RelStore.Like

/-- One unit of a pattern without `%`. -/
inductive Wild where
  | any
  | exactly (unit : UInt16)
  deriving DecidableEq, Repr

/-- A unit of a pattern. -/
inductive Sign where
  | run
  | one (wild : Wild)
  deriving DecidableEq, Repr

def percentUnit : UInt16 := 37

def underscoreUnit : UInt16 := 95

def signOf (unit : UInt16) : Sign :=
  if unit = percentUnit then .run
  else if unit = underscoreUnit then .one .any
  else .one (.exactly unit)

def Wild.matches : Wild → UInt16 → Bool
  | .any, _ => true
  | .exactly unit, other => unit == other

/-- The texts that a pattern stands for. -/
inductive InPattern : List Sign → List UInt16 → Prop where
  | nil : InPattern [] []
  | one {wild unit signs units} : wild.matches unit = true → InPattern signs units →
      InPattern (.one wild :: signs) (unit :: units)
  | stop {signs units} : InPattern signs units → InPattern (.run :: signs) units
  | more {unit signs units} : InPattern (.run :: signs) units →
      InPattern (.run :: signs) (unit :: units)

/-- The pattern after a `%`, and the text on which it is tried. -/
structure Trial where
  pattern : List Sign
  text : List UInt16
  deriving DecidableEq, Repr

/-- A trial has come to what is left of the pattern and the text, one unit for each unit. -/
def Trial.Reaches (trial : Trial) (pattern : List Sign) (text : List UInt16) : Prop :=
  ∃ wilds : List Wild, ∃ units : List UInt16, units.length = wilds.length ∧
    trial.pattern = wilds.map .one ++ pattern ∧ trial.text = units ++ text

theorem Trial.Reaches.refl (trial : Trial) : trial.Reaches trial.pattern trial.text :=
  ⟨[], [], rfl, rfl, rfl⟩

theorem Trial.Reaches.next {trial : Trial} {wild : Wild} {signs : List Sign} {unit : UInt16}
    {units : List UInt16} (h : trial.Reaches (.one wild :: signs) (unit :: units)) :
    trial.Reaches signs units := by
  obtain ⟨wilds, taken, hlength, hpattern, htext⟩ := h
  exact ⟨wilds ++ [wild], taken ++ [unit], by simp [hlength], by simp [hpattern], by simp [htext]⟩

/-- As much is passed of the pattern as of the text. -/
theorem Trial.Reaches.length_add {trial : Trial} {pattern : List Sign} {text : List UInt16}
    (h : trial.Reaches pattern text) : text.length ≤ trial.text.length ∧
      trial.pattern.length + text.length = trial.text.length + pattern.length := by
  obtain ⟨wilds, units, hlength, hpattern, htext⟩ := h
  simp only [hpattern, htext, List.length_append, List.length_map, hlength]
  omega

/-- What is left of a pattern and a text, and the trial of the last `%`. -/
structure Place where
  pattern : List Sign
  text : List UInt16
  trial : Option Trial
  reached : ∀ last, trial = some last → last.Reaches pattern text

namespace Place

/-- The beginning of a pattern and a text. -/
def start (pattern : List Sign) (text : List UInt16) : Place := ⟨pattern, text, none, nofun⟩

/-- A trial at its beginning. -/
def trying (trial : Trial) : Place where
  pattern := trial.pattern
  text := trial.text
  trial := some trial
  reached last h := by
    obtain rfl := Option.some.inj h
    exact Trial.Reaches.refl trial

/-- The last `%` takes one unit more. -/
def again? (place : Place) : Option Place :=
  match place.trial with
  | some ⟨signs, _ :: units⟩ => some (trying ⟨signs, units⟩)
  | _ => none

/-- The place after one step, if there is text left and it may still be as the pattern asks. -/
def next? : Place → Option Place
  | ⟨_, [], _, _⟩ => none
  | place@⟨.one wild :: signs, unit :: units, trial, reached⟩ =>
    if wild.matches unit then some ⟨signs, units, trial, fun last h => (reached last h).next⟩
    else place.again?
  | ⟨.run :: signs, text, _, _⟩ => some (trying ⟨signs, text⟩)
  | place@⟨[], _, _, _⟩ => place.again?

/-- The units that the last `%` may be tried on, and one more than there are before the first. -/
def untried (place : Place) : Nat :=
  match place.trial with
  | some last => last.text.length
  | none => place.text.length + 1

theorem length_le_untried (place : Place) : place.text.length ≤ place.untried := by
  rw [untried]
  split
  next last htrial => exact (place.reached last htrial).length_add.1
  next => exact Nat.le_succ _

/-- How many steps there are left at most: each trial goes through no more than it is tried on. -/
def stepsLeft (place : Place) : Nat := place.untried * (place.untried + 1) + place.pattern.length

theorem stepsLeft_lt_of_untried {place next : Place} (h : next.untried < place.untried)
    (hpattern : next.pattern.length < place.pattern.length + 2 * place.untried) :
    next.stepsLeft < place.stepsLeft := by
  have hmul : next.untried * (next.untried + 1) ≤ (place.untried - 1) * place.untried :=
    Nat.mul_le_mul (by omega) (by omega)
  have hsquare : place.untried * (place.untried + 1) =
      (place.untried - 1) * place.untried + 2 * place.untried := by
    rw [Nat.mul_comm, ← Nat.add_mul]
    congr 1
    omega
  rw [stepsLeft, stepsLeft]
  omega

theorem stepsLeft_again? {place next : Place} (h : place.again? = some next) :
    next.stepsLeft < place.stepsLeft := by
  rw [again?] at h
  split at h
  next signs unit units htrial =>
    obtain rfl := Option.some.inj h
    have huntried : place.untried = units.length + 1 := by
      rw [untried, htrial]
      rfl
    have hlength := (place.reached _ htrial).length_add.2
    have hpattern : (trying ⟨signs, units⟩).pattern = signs := rfl
    simp only [List.length_cons] at hlength
    refine stepsLeft_lt_of_untried ?_ ?_
    · rw [huntried]
      exact Nat.lt_succ_self _
    · rw [hpattern]
      omega
  next => cases h

/-- There are fewer steps left after each. -/
theorem stepsLeft_next? {place next : Place} (h : place.next? = some next) :
    next.stepsLeft < place.stepsLeft := by
  obtain ⟨pattern, text, trial, reached⟩ := place
  cases text with
  | nil => cases h
  | cons unit units =>
    match pattern with
    | [] => exact stepsLeft_again? h
    | .run :: signs =>
      obtain rfl := Option.some.inj h
      have hle := length_le_untried ⟨.run :: signs, unit :: units, trial, reached⟩
      exact Nat.add_lt_add_of_le_of_lt (Nat.mul_le_mul hle (Nat.succ_le_succ hle)) (Nat.lt_succ_self _)
    | .one wild :: signs =>
      rw [next?] at h
      split at h
      next =>
        obtain rfl := Option.some.inj h
        cases trial with
        | none => exact stepsLeft_lt_of_untried (Nat.lt_succ_self _) (Nat.lt_add_right _ (Nat.lt_succ_self _))
        | some last => exact Nat.add_lt_add_left (Nat.lt_succ_self _) _
      next => exact stepsLeft_again? h

/-- Whether the text is as the pattern asks. -/
def succeeds (place : Place) : Bool :=
  match _h : place.next? with
  | some next => next.succeeds
  | none => place.text.isEmpty && place.pattern.all (· == .run)
termination_by place.stepsLeft
decreasing_by exact stepsLeft_next? _h

end Place

def matchSigns (pattern : List Sign) (text : List UInt16) : Bool := (Place.start pattern text).succeeds

end RelStore.Like

namespace RelStore

/-- Whether a text is like a pattern, in any letter case. -/
def like (text pattern : String) : Bool :=
  Like.matchSigns ((Text.units (Text.lower pattern)).map Like.signOf) (Text.units (Text.lower text))

end RelStore
