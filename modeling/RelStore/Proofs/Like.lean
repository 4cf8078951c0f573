/-
Texts that are like a pattern.

`like_iff` says what LIKE means: the text is made of pieces, one for each unit of the pattern, where
`%` stands for any piece, `_` for one unit and every other unit for itself. Each step of the search
keeps whether the text can still be as the pattern asks (`Place.open_iff`), though it forgets all
`%` before the last: whatever an earlier `%` could still take, the last can take as well, since the
signs between the two were found before (`Trial.Reaches.later`).
-/
import Mathlib.Data.List.Forall2
import RelStore.Like

namespace RelStore.Like

open List (Forall₂)

variable {signs : List Sign} {text units : List UInt16} {unit : UInt16} {wild : Wild}

/-! ## What patterns stand for -/

@[simp] theorem inPattern_nil : InPattern [] text ↔ text = [] := by
  constructor
  · rintro ⟨⟩
    rfl
  · rintro rfl
    exact .nil

@[simp] theorem inPattern_one_cons :
    InPattern (.one wild :: signs) (unit :: units) ↔
      wild.matches unit = true ∧ InPattern signs units := by
  constructor
  · rintro ⟨⟩
    exact ⟨by assumption, by assumption⟩
  · exact fun ⟨hunit, hunits⟩ => .one hunit hunits

/-- A `%` stands for nothing, or it takes the first unit. -/
theorem inPattern_run : InPattern (.run :: signs) text ↔
    InPattern signs text ∨ InPattern (.run :: signs) text.tail := by
  constructor
  · rintro (_ | _ | h | h)
    · exact .inl h
    · exact .inr h
  · rintro (h | h)
    · exact .stop h
    · cases text with
      | nil => exact h
      | cons unit units => exact .more h

theorem inPattern_run_iff : InPattern (.run :: signs) text ↔
    ∃ taken rest, text = taken ++ rest ∧ InPattern signs rest := by
  constructor
  · intro h
    induction text with
    | nil =>
      cases h with
      | stop h => exact ⟨[], [], rfl, h⟩
    | cons unit units ih =>
      cases h with
      | stop h => exact ⟨[], _, rfl, h⟩
      | more h =>
        obtain ⟨taken, rest, rfl, hrest⟩ := ih h
        exact ⟨unit :: taken, rest, rfl, hrest⟩
  · rintro ⟨taken, rest, rfl, hrest⟩
    induction taken with
    | nil => exact .stop hrest
    | cons unit taken ih => exact .more ih

/-- Two `%` stand for no more than one. -/
theorem inPattern_run_run :
    InPattern (.run :: .run :: signs) text ↔ InPattern (.run :: signs) text := by
  refine ⟨fun h => ?_, .stop⟩
  obtain ⟨taken, rest, rfl, hrest⟩ := inPattern_run_iff.1 h
  obtain ⟨more, last, rfl, hlast⟩ := inPattern_run_iff.1 hrest
  exact inPattern_run_iff.2 ⟨taken ++ more, last, (List.append_assoc ..).symm, hlast⟩

theorem inPattern_wilds_iff {wilds : List Wild} : InPattern (wilds.map .one ++ signs) text ↔
    ∃ taken rest, text = taken ++ rest ∧ Forall₂ (fun wild unit => wild.matches unit = true) wilds taken ∧
      InPattern signs rest := by
  induction wilds generalizing text with
  | nil => simp
  | cons wild wilds ih =>
    rw [List.map_cons, List.cons_append]
    constructor
    · rintro ⟨⟩
      rename_i unit units hunit h
      obtain ⟨taken, rest, rfl, htaken, hrest⟩ := ih.1 h
      exact ⟨unit :: taken, rest, rfl, .cons hunit htaken, hrest⟩
    · rintro ⟨_, rest, rfl, ⟨⟩, hrest⟩
      rename_i unit taken hunit htaken
      exact .one hunit (ih.2 ⟨taken, rest, rfl, htaken, hrest⟩)

/-- Only signs for any run stand for nothing. -/
theorem inPattern_empty : InPattern signs [] ↔ signs.all (· == .run) = true := by
  induction signs with
  | nil => simp
  | cons sign signs ih =>
    rw [List.all_cons, Bool.and_eq_true, beq_iff_eq, ← ih]
    constructor
    · rintro ⟨⟩
      exact ⟨rfl, by assumption⟩
    · rintro ⟨rfl, h⟩
      exact .stop h

/-! ## Steps of the search -/

/-- What an earlier place for the last `%` would lead to, a later one leads to as well. -/
theorem Trial.Reaches.later {trial : Trial} (h : trial.Reaches signs text)
    (hin : InPattern (.run :: trial.pattern) trial.text.tail) : InPattern (.run :: signs) text.tail := by
  obtain ⟨wilds, units, hlength, hpattern, htext⟩ := h
  rw [hpattern, inPattern_run_iff] at hin
  obtain ⟨skipped, rest, hrest, hin⟩ := hin
  obtain ⟨taken, last, rfl, htaken, hlast⟩ := inPattern_wilds_iff.1 hin
  -- as many units are taken as have been passed, after at least one that is skipped
  have hsame : taken.length = units.length := htaken.length_eq.symm.trans hlength.symm
  have hsuffix : last <:+ text.tail := by
    have hwhole : last <:+ trial.text.tail := ⟨skipped ++ taken, by rw [hrest, List.append_assoc]⟩
    have hcount := congrArg List.length hrest
    rw [htext] at hwhole hcount
    refine List.suffix_of_suffix_length_le hwhole ?_ ?_
    · cases units with
      | nil => exact List.suffix_refl _
      | cons first units => exact (List.tail_suffix text).trans (List.suffix_append units text)
    · simp only [List.length_tail, List.length_append] at hcount ⊢
      omega
  obtain ⟨more, hmore⟩ := hsuffix
  exact inPattern_run_iff.2 ⟨more, last, hmore.symm, hlast⟩

namespace Place

variable {place next : Place}

/-- The text may be as the pattern asks from here, or with more for the last `%`. -/
def Open (place : Place) : Prop :=
  InPattern place.pattern place.text ∨
    ∃ last, place.trial = some last ∧ InPattern (.run :: last.pattern) last.text.tail

theorem open_trying (trial : Trial) :
    (trying trial).Open ↔ InPattern (.run :: trial.pattern) trial.text := by
  rw [inPattern_run]
  simp [Open, trying]

/-- Where the pattern cannot go on, it is for the last `%` to take more. -/
theorem open_again? (hstuck : ¬ InPattern place.pattern place.text) (htext : place.text ≠ []) :
    place.Open ↔ ∃ next, place.again? = some next ∧ next.Open := by
  cases htrial : place.trial with
  | none => simp [Open, again?, htrial, hstuck]
  | some last =>
    obtain ⟨signs, units⟩ := last
    cases units with
    | nil =>
      have hlength := (place.reached _ htrial).length_add.1
      exact absurd (List.length_eq_zero_iff.1 (Nat.le_zero.1 hlength)) htext
    | cons unit units =>
      have hnext : place.again? = some (trying ⟨signs, units⟩) := by rw [again?, htrial]
      simp only [hnext, Option.some.injEq, exists_eq_left', open_trying]
      simp [Open, htrial, hstuck]

/-- **A step of the search keeps whether the text can be as the pattern asks**, and where there is
no step left it cannot, unless all of the text has been matched. -/
theorem open_iff (place : Place) : place.Open ↔
    (∃ next, place.next? = some next ∧ next.Open) ∨ place.text = [] ∧ InPattern place.pattern [] := by
  obtain ⟨pattern, text, trial, reached⟩ := place
  cases text with
  | nil =>
    simp only [next?, reduceCtorEq, false_and, exists_false, false_or, true_and]
    refine ⟨?_, .inl⟩
    rintro (h | ⟨last, hlast, h⟩)
    · exact h
    · cases (reached last hlast).later h with
      | stop h => exact h
  | cons unit units =>
    simp only [reduceCtorEq, false_and, or_false]
    cases pattern with
    | nil => exact open_again? (by simp) (List.cons_ne_nil _ _)
    | cons sign signs =>
      cases sign with
      | run =>
        simp only [next?, Option.some.injEq, exists_eq_left', open_trying]
        constructor
        · rintro (h | ⟨last, hlast, h⟩)
          · exact h
          · exact .more (inPattern_run_run.1 ((reached last hlast).later h))
        · exact .inl
      | one wild =>
        by_cases hunit : wild.matches unit = true
        · simp [next?, hunit, Open]
        · rw [next?, if_neg hunit]
          exact open_again? (by simp [hunit]) (List.cons_ne_nil _ _)

theorem succeeds_iff (place : Place) : place.succeeds = true ↔ place.Open := by
  induction place using succeeds.induct with
  | case1 place next h ih =>
    have htext : place.text ≠ [] := by
      rintro htext
      obtain ⟨_, text, _, _⟩ := place
      obtain rfl : text = [] := htext
      cases h
    rw [succeeds, open_iff]
    split
    next other hother =>
      obtain rfl := Option.some.inj (h.symm.trans hother)
      simp [h, htext, ih]
    next hnone => simp [h] at hnone
  | case2 place h =>
    rw [succeeds, open_iff, inPattern_empty]
    split
    next next hnext => simp [h] at hnext
    next => simp [h]

end Place

/-- No search goes on for ever. -/
theorem Place.wellFounded_next? : WellFounded fun next place : Place => place.next? = some next :=
  Subrelation.wf Place.stepsLeft_next? (measure Place.stepsLeft).wf

theorem matchSigns_iff : matchSigns signs text = true ↔ InPattern signs text := by
  rw [matchSigns, Place.succeeds_iff]
  simp [Place.Open, Place.start]

/-! ## Pieces -/

/-- What a unit of a pattern stands for. -/
inductive StandsFor : UInt16 → List UInt16 → Prop where
  | run (piece : List UInt16) : StandsFor percentUnit piece
  | any (unit : UInt16) : StandsFor underscoreUnit [unit]
  | itself {unit : UInt16} (hrun : unit ≠ percentUnit) (hany : unit ≠ underscoreUnit) :
    StandsFor unit [unit]

/-- The first unit of a pattern stands for a piece at the beginning of the text. -/
theorem inPattern_signOf_iff : InPattern (signOf unit :: signs) text ↔
    ∃ piece rest, StandsFor unit piece ∧ text = piece ++ rest ∧ InPattern signs rest := by
  by_cases hrun : unit = percentUnit
  · obtain rfl := hrun
    rw [signOf, if_pos rfl, inPattern_run_iff]
    exact exists₂_congr fun piece _ => (and_iff_right (.run piece)).symm
  rw [signOf, if_neg hrun]
  by_cases hany : unit = underscoreUnit
  · obtain rfl := hany
    rw [if_pos rfl]
    constructor
    · rintro ⟨⟩
      rename_i first units _ h
      exact ⟨[first], units, .any first, rfl, h⟩
    · rintro ⟨_, rest, _ | first | ⟨_, hother⟩, rfl, h⟩
      · exact .one rfl h
      · exact absurd rfl hother
  · rw [if_neg hany]
    constructor
    · rintro ⟨⟩
      rename_i first units hfirst h
      obtain rfl := beq_iff_eq.1 hfirst
      exact ⟨[unit], units, .itself hrun hany, rfl, h⟩
    · rintro ⟨_, rest, _ | _ | _, rfl, h⟩
      · exact absurd rfl hrun
      · exact absurd rfl hany
      · exact .one (beq_self_eq_true unit) h

theorem inPattern_iff_pieces {pattern : List UInt16} : InPattern (pattern.map signOf) text ↔
    ∃ pieces, Forall₂ StandsFor pattern pieces ∧ text = pieces.flatten := by
  induction pattern generalizing text with
  | nil => simp
  | cons unit pattern ih =>
    simp only [List.map_cons, List.forall₂_cons_left_iff]
    constructor
    · intro h
      obtain ⟨piece, rest, hpiece, rfl, hrest⟩ := inPattern_signOf_iff.1 h
      obtain ⟨pieces, hpieces, rfl⟩ := ih.1 hrest
      exact ⟨piece :: pieces, ⟨piece, pieces, hpiece, hpieces, rfl⟩, rfl⟩
    · rintro ⟨_, ⟨piece, pieces, hpiece, hpieces, rfl⟩, rfl⟩
      exact inPattern_signOf_iff.2 ⟨piece, _, hpiece, rfl, ih.2 ⟨pieces, hpieces, rfl⟩⟩

end RelStore.Like

namespace RelStore

open Like (Place StandsFor)

/-- **A search comes to an end, and finds a text like a pattern exactly if, in lower case, it is made of
pieces that the units of the pattern stand for**, one after the other. -/
theorem like_iff (text pattern : String) :
    (WellFounded fun next place : Place => place.next? = some next) ∧
      (like text pattern = true ↔
        ∃ pieces, List.Forall₂ StandsFor (Text.units (Text.lower pattern)) pieces ∧
          Text.units (Text.lower text) = pieces.flatten) := by
  refine ⟨Place.wellFounded_next?, ?_⟩
  rw [like, Like.matchSigns_iff, Like.inPattern_iff_pieces]

end RelStore
