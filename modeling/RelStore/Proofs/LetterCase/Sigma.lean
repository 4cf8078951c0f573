/-
The lower case of a part of a text.

A character has its lower case wherever it stands, but for the capital sigma, whose lower case is the
final one where it ends a word (`endsWord`). So the lower case of a part is the same in two surroundings
exactly if its capital sigmas end words alike in both (`unitsWithin_eq_iff`), and it has as many units
in either (`length_unitsWithin`). No other character than `%` and `_` has one of them in its lower case
(`eq_of_mem_lowerChar`).
-/
import Mathlib.Data.List.Basic
import RelStore.Text.Case
import RelStore.Text.Units

namespace RelStore.Text

/-- Whether the last character that case does not ignore is cased, given whether one before was. -/
def casedAfter (cased : Bool) (text : List Char) : Bool :=
  text.foldl (fun cased c => if isCaseIgnorable c then cased else isCased c) cased

/-- Whether a letter between two texts ends a word: a cased letter comes before it, none after it. -/
def endsWord (cased : Bool) (before after : List Char) : Bool :=
  casedAfter cased before && !meetsCased after

/-- The lower case of a character, given whether it ends a word. -/
def lowerForm (ends : Bool) (c : Char) : List Char :=
  if c == capitalSigma && ends then [finalSigma] else lowerChar c

/-- The lower case of a part of a text, given whether the last character before it that case does
not ignore is cased, and what comes after it. -/
def lowerWithin (cased : Bool) : List Char → List Char → List Char
  | [], _ => []
  | c :: rest, after =>
    lowerForm (endsWord cased [] (rest ++ after)) c ++ lowerWithin (casedAfter cased [c]) rest after

variable {cased cased' : Bool} {part after after' : List Char}

theorem casedAfter_cons (cased : Bool) (c : Char) (text : List Char) :
    casedAfter cased (c :: text) = casedAfter (casedAfter cased [c]) text := rfl

/-- The lower case of a text is that of its parts, each where it stands. -/
theorem lowerWithin_append (cased : Bool) (first part after : List Char) :
    lowerWithin cased (first ++ part) after =
      lowerWithin cased first (part ++ after) ++ lowerWithin (casedAfter cased first) part after := by
  induction first generalizing cased with
  | nil => rfl
  | cons c rest ih =>
    rw [List.cons_append, lowerWithin, lowerWithin, ih, casedAfter_cons cased c rest, List.append_assoc,
      List.append_assoc]

theorem lowerWithin_nil (cased : Bool) (part : List Char) :
    lowerWithin cased part [] = lowerAfter cased part := by
  induction part generalizing cased with
  | nil => rfl
  | cons c rest ih =>
    rw [lowerWithin, ih, lowerAfter, List.append_nil]
    simp [lowerForm, endsWord, casedAfter, and_assoc]

/-! ## Sigmas in two surroundings -/

/-- The capital sigmas of a part end words alike in two surroundings. -/
def SigmasAlike (cased cased' : Bool) (part after after' : List Char) : Prop :=
  ∀ before rest, part = before ++ capitalSigma :: rest →
    endsWord cased before (rest ++ after) = endsWord cased' before (rest ++ after')

theorem sigmasAlike_cons {c : Char} : SigmasAlike cased cased' (c :: part) after after' ↔
    (c = capitalSigma → endsWord cased [] (part ++ after) = endsWord cased' [] (part ++ after')) ∧
      SigmasAlike (casedAfter cased [c]) (casedAfter cased' [c]) part after after' := by
  constructor
  · intro h
    refine ⟨fun hc => h [] part (by rw [hc]; rfl), fun before rest hpart => ?_⟩
    exact h (c :: before) rest (by rw [hpart]; rfl)
  · rintro ⟨hfirst, hothers⟩ before rest hpart
    cases before with
    | nil =>
      obtain ⟨rfl, rfl⟩ := List.cons.inj hpart
      exact hfirst rfl
    | cons first before =>
      obtain ⟨rfl, rfl⟩ := List.cons.inj hpart
      exact hothers before rest rfl

/-- The units of a part in lower case. -/
def unitsWithin (cased : Bool) (part after : List Char) : List UInt16 :=
  (lowerWithin cased part after).flatMap unitsOf

theorem units_lower (s : String) : units (lower s) = unitsWithin false s.toList [] := by
  rw [unitsWithin, lowerWithin_nil, units, lower, String.toList_ofList]

theorem unitsWithin_append (cased : Bool) (first part after : List Char) :
    unitsWithin cased (first ++ part) after =
      unitsWithin cased first (part ++ after) ++ unitsWithin (casedAfter cased first) part after := by
  rw [unitsWithin, lowerWithin_append, List.flatMap_append]
  rfl

theorem unitsWithin_cons (cased : Bool) (c : Char) (rest after : List Char) :
    unitsWithin cased (c :: rest) after =
      (lowerForm (endsWord cased [] (rest ++ after)) c).flatMap unitsOf ++
        unitsWithin (casedAfter cased [c]) rest after :=
  List.flatMap_append

/-- Both forms of a sigma in lower case have one unit. -/
theorem length_units_lowerForm (c : Char) (ends ends' : Bool) :
    ((lowerForm ends c).flatMap unitsOf).length = ((lowerForm ends' c).flatMap unitsOf).length := by
  by_cases hc : c = capitalSigma
  · subst hc
    revert ends ends'
    decide +kernel
  · simp [lowerForm, hc]

theorem eq_of_units_lowerForm_eq {ends ends' : Bool}
    (h : (lowerForm ends capitalSigma).flatMap unitsOf = (lowerForm ends' capitalSigma).flatMap unitsOf) :
    ends = ends' := by
  revert ends ends'
  decide +kernel

theorem length_unitsWithin (cased cased' : Bool) (part after after' : List Char) :
    (unitsWithin cased part after).length = (unitsWithin cased' part after').length := by
  induction part generalizing cased cased' with
  | nil => rfl
  | cons c rest ih =>
    rw [unitsWithin_cons, unitsWithin_cons, List.length_append, List.length_append, ih,
      length_units_lowerForm]

/-- **A part has one lower case in two surroundings exactly if its capital sigmas end words alike.** -/
theorem unitsWithin_eq_iff : unitsWithin cased part after = unitsWithin cased' part after' ↔
    SigmasAlike cased cased' part after after' := by
  induction part generalizing cased cased' with
  | nil => exact iff_of_true rfl fun before rest h => by simp at h
  | cons c rest ih =>
    rw [unitsWithin_cons, unitsWithin_cons, sigmasAlike_cons, ← ih]
    constructor
    · intro h
      obtain ⟨hfirst, hothers⟩ := List.append_inj h (length_units_lowerForm _ _ _)
      refine ⟨?_, hothers⟩
      rintro rfl
      exact eq_of_units_lowerForm_eq hfirst
    · rintro ⟨hfirst, hothers⟩
      by_cases hc : c = capitalSigma
      · rw [hfirst hc, hothers]
      · rw [hothers]
        simp [lowerForm, hc]

instance : Decidable (SigmasAlike cased cased' part after after') :=
  decidable_of_iff _ unitsWithin_eq_iff

/-! ## Signs in lower case -/

/-- The signs that stand for other units in patterns. -/
def IsSign (c : Char) : Prop := c = '%' ∨ c = '_'

instance (c : Char) : Decidable (IsSign c) := inferInstanceAs (Decidable (_ ∨ _))

theorem not_isSign_of_all {text : List Char} (h : text.all (fun c => !decide (IsSign c)) = true) :
    ∀ c ∈ text, ¬ IsSign c := by
  simpa using h

/-- A code above those of the signs is that of no sign, also if no character has it. -/
theorem not_isSign_ofNat {code : Nat} (h : '_'.toNat < code) : ¬ IsSign (Char.ofNat code) := by
  have hpercent : '%'.toNat = 37 := rfl
  have hunderscore : '_'.toNat = 95 := rfl
  by_cases hvalid : code.isValidChar
  · have hcode : (Char.ofNat code).toNat = code := by
      rw [Char.ofNat, dif_pos hvalid]
      rfl
    rintro (hsign | hsign) <;> rw [hsign] at hcode <;> omega
  · rw [Char.ofNat, dif_neg hvalid]
    decide

/-- No other character has a sign in its lower case. -/
theorem eq_of_mem_lowerChar {c d : Char} (h : d ∈ lowerChar c) (hd : IsSign d) : c = d := by
  rw [lowerChar] at h
  split at h
  next hascii =>
    obtain rfl := List.mem_singleton.1 h
    exact of_ascii (P := fun c => IsSign c.toLower → c = c.toLower) (by decide +kernel) hascii hd
  next =>
    rw [mapCase] at h
    split at h
    next codes hcodes =>
      have hall : ∀ entry ∈ lowerExpansions, ∀ code ∈ entry.2, '_'.toNat < code := by decide
      obtain ⟨code, hcode, rfl⟩ := List.mem_map.1 h
      obtain ⟨before, after, hentries, -⟩ := List.lookup_eq_some_iff.1 hcodes
      have hentry : (c.toNat, codes) ∈ lowerExpansions := by simp [hentries]
      exact absurd hd (not_isSign_ofNat (hall _ hentry code hcode))
    next =>
      split at h
      next range hrange =>
        have hall : ∀ range ∈ lowerRanges, ('_'.toNat : Int) < range.first + range.shift := by
          decide +kernel
        have hcontains := List.find?_some hrange
        have habove := hall range (List.mem_of_find?_eq_some hrange)
        obtain rfl := List.mem_singleton.1 h
        simp only [CaseRange.contains, Bool.and_eq_true, decide_eq_true_eq] at hcontains
        exact absurd hd (not_isSign_ofNat (by omega))
      next => exact (List.mem_singleton.1 h).symm

/-- A unit of a character is its code, or that of a half. -/
theorem toNat_of_mem_unitsOf {c : Char} {unit : UInt16} (h : unit ∈ unitsOf c) :
    unit.toNat = c.toNat ∨ firstHalfUnit ≤ unit.toNat := by
  have hmax := toNat_lt c
  rw [unitsOf] at h
  split at h
  · obtain rfl := List.mem_singleton.1 h
    rw [UInt16.toNat_ofNat', unitOfHalf, halvesStart, firstHalfUnit]
    omega
  · split at h
    · obtain rfl := List.mem_singleton.1 h
      rw [UInt16.toNat_ofNat']
      omega
    · simp only [pairOf, List.mem_cons, List.not_mem_nil, or_false] at h
      rcases h with rfl | rfl <;> rw [UInt16.toNat_ofNat', firstHalfUnit] <;> omega

theorem isSign_of_mem_unitsOf {c : Char} {unit : UInt16} (h : unit ∈ unitsOf c)
    (hunit : unit.toNat = '%'.toNat ∨ unit.toNat = '_'.toNat) : IsSign c := by
  have hfirst : '%'.toNat < firstHalfUnit ∧ '_'.toNat < firstHalfUnit := by decide
  rcases toNat_of_mem_unitsOf h with hsame | hhalf
  · rw [hsame] at hunit
    exact hunit.imp Char.toNat_inj.1 Char.toNat_inj.1
  · omega

/-- **A part without signs has none in lower case.** -/
theorem not_sign_of_mem_unitsWithin (h : ∀ c ∈ part, ¬ IsSign c) {unit : UInt16}
    (hunit : unit ∈ unitsWithin cased part after) :
    unit.toNat ≠ '%'.toNat ∧ unit.toNat ≠ '_'.toNat := by
  induction part generalizing cased with
  | nil => cases hunit
  | cons c rest ih =>
    obtain ⟨hc, hrest⟩ := List.forall_mem_cons.1 h
    rw [unitsWithin_cons] at hunit
    rcases List.mem_append.1 hunit with hunit | hunit
    · rw [← not_or]
      intro hsign
      obtain ⟨d, hd, hunit⟩ := List.mem_flatMap.1 hunit
      have hdsign := isSign_of_mem_unitsOf hunit hsign
      rw [lowerForm] at hd
      split at hd
      · obtain rfl := List.mem_singleton.1 hd
        exact absurd hdsign (by decide)
      · exact hc (eq_of_mem_lowerChar hd hdsign ▸ hdsign)
    · exact ih hrest hunit

end RelStore.Text
