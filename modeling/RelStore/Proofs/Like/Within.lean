/-
Texts that are looked for within other texts.

A `%` after a text without signs asks for texts that begin with it, one before it for texts that end
with it, and one on either side for texts that have it anywhere (`like_percent`, `percent_like`,
`percent_like_percent`), each by its lower case. That is not its lower case wherever it stands, for
the capital sigma ends a word in one place and does not in another. `like_within` says what this comes
to: a text is found before and after others exactly if its capital sigmas end words there as they do in
the text alone (`KeepsSigmas`), and then it is found between others too. Texts without capital sigmas
are always found (`keepsSigmas_of_notMem`), but `ΑΣ%` does not find `ΑΣΑ` (`not_like_goesOn`).
-/
import RelStore.Proofs.Like
import RelStore.Proofs.LetterCase.Sigma

namespace RelStore

open Text

namespace Like

variable {text part : List UInt16} {signs : List Sign}

/-- The part of a pattern that stands for some units. -/
def exactly (part : List UInt16) : List Sign := (part.map Wild.exactly).map .one

theorem inPattern_exactly_iff :
    InPattern (exactly part ++ signs) text ↔ ∃ rest, text = part ++ rest ∧ InPattern signs rest := by
  have hsame (taken : List UInt16) :
      List.Forall₂ (fun wild unit => Wild.matches wild unit = true) (part.map .exactly) taken ↔
        part = taken := by
    simp only [List.forall₂_map_left_iff, Wild.matches, beq_iff_eq, List.forall₂_eq_eq_eq]
  rw [exactly, inPattern_wilds_iff]
  constructor
  · rintro ⟨taken, rest, htext, htaken, hrest⟩
    exact ⟨rest, (hsame taken).1 htaken ▸ htext, hrest⟩
  · rintro ⟨rest, htext, hrest⟩
    exact ⟨part, rest, htext, (hsame part).2 rfl, hrest⟩

/-- What begins with some units may go on as it likes. -/
theorem inPattern_exactly_run_iff : InPattern (exactly part ++ [.run]) text ↔ part <+: text := by
  rw [inPattern_exactly_iff]
  constructor
  · rintro ⟨rest, htext, -⟩
    exact ⟨rest, htext.symm⟩
  · rintro ⟨rest, htext⟩
    exact ⟨rest, htext.symm, inPattern_run_iff.2 ⟨rest, [], (List.append_nil rest).symm, .nil⟩⟩

theorem map_signOf (h : ∀ unit ∈ part, unit.toNat ≠ '%'.toNat ∧ unit.toNat ≠ '_'.toNat) :
    part.map signOf = exactly part := by
  rw [exactly, List.map_map]
  refine List.map_congr_left fun unit hunit => ?_
  obtain ⟨hrun, hany⟩ := h unit hunit
  rw [signOf, if_neg, if_neg]
  · rfl
  · rintro rfl
    exact hany rfl
  · rintro rfl
    exact hrun rfl

end Like

/-! ## Patterns of a text and `%` -/

section

variable {part text : String}

theorem units_lower_percent (s : String) :
    units (lower ("%" ++ s)) = Like.percentUnit :: units (lower s) := by
  have hunits (ends : Bool) : (lowerForm ends '%').flatMap unitsOf = [Like.percentUnit] := by
    revert ends
    decide +kernel
  have hcased : casedAfter false ['%'] = false := by decide
  rw [units_lower, units_lower, String.toList_append, show "%".toList = ['%'] from rfl,
    List.singleton_append, unitsWithin_cons, hunits, hcased, List.singleton_append]

theorem units_lower_concat_percent (s : String) :
    units (lower (s ++ "%")) = units (lower s) ++ [Like.percentUnit] := by
  -- no cased letter comes after the text, with `%` behind it or with nothing
  have hmeets (rest : List Char) : meetsCased (rest ++ ['%']) = meetsCased (rest ++ []) := by
    rw [meetsCased, meetsCased, List.find?_append, List.append_nil]
    cases rest.find? (!isCaseIgnorable ·) with
    | none => rfl
    | some c => rfl
  have hself : unitsWithin false s.toList ['%'] = unitsWithin false s.toList [] :=
    unitsWithin_eq_iff.2 fun before rest _ => by rw [endsWord, endsWord, hmeets]
  have hunits (cased : Bool) : unitsWithin cased ['%'] [] = [Like.percentUnit] := by
    revert cased
    decide +kernel
  rw [units_lower, units_lower, String.toList_append, show "%".toList = ['%'] from rfl,
    unitsWithin_append, hunits, List.append_nil, hself]

theorem map_signOf_lower (h : ∀ c ∈ part.toList, ¬ IsSign c) :
    (units (lower part)).map Like.signOf = Like.exactly (units (lower part)) := by
  refine Like.map_signOf fun unit hunit => ?_
  rw [units_lower] at hunit
  exact not_sign_of_mem_unitsWithin h hunit

/-- Texts that begin with some text. -/
theorem like_percent (h : ∀ c ∈ part.toList, ¬ IsSign c) :
    like text (part ++ "%") = true ↔ units (lower part) <+: units (lower text) := by
  rw [like, Like.matchSigns_iff, units_lower_concat_percent, List.map_append, map_signOf_lower h,
    ← Like.inPattern_exactly_run_iff]
  rfl

/-- Texts that end with some text. -/
theorem percent_like (h : ∀ c ∈ part.toList, ¬ IsSign c) :
    like text ("%" ++ part) = true ↔ units (lower part) <:+ units (lower text) := by
  have hexactly (rest : List UInt16) :
      Like.InPattern (Like.exactly (units (lower part))) rest ↔ rest = units (lower part) := by
    rw [← List.append_nil (Like.exactly _), Like.inPattern_exactly_iff]
    simp
  rw [like, Like.matchSigns_iff, units_lower_percent, List.map_cons, map_signOf_lower h]
  refine Like.inPattern_run_iff.trans ?_
  simp only [hexactly, exists_eq_right, eq_comm (a := units (lower text))]
  rfl

/-- Texts that have some text in them. -/
theorem percent_like_percent (h : ∀ c ∈ part.toList, ¬ IsSign c) :
    like text ("%" ++ part ++ "%") = true ↔ units (lower part) <:+: units (lower text) := by
  rw [like, Like.matchSigns_iff, units_lower_concat_percent, units_lower_percent, List.cons_append,
    List.map_cons, List.map_append, map_signOf_lower h]
  refine Like.inPattern_run_iff.trans ?_
  constructor
  · rintro ⟨taken, rest, htext, hrest⟩
    obtain ⟨more, rfl⟩ := Like.inPattern_exactly_run_iff.1 hrest
    exact ⟨taken, more, by rw [htext, List.append_assoc]⟩
  · rintro ⟨taken, more, htext⟩
    refine ⟨taken, units (lower part) ++ more, by rw [← htext, List.append_assoc], ?_⟩
    exact Like.inPattern_exactly_run_iff.2 (List.prefix_append _ _)

end

/-! ## Texts between others -/

/-- The capital sigmas of a text end words between two others exactly if they do in the text alone. -/
abbrev KeepsSigmas (before text after : String) : Prop :=
  SigmasAlike (casedAfter false before.toList) false text.toList after.toList []

theorem keepsSigmas_of_notMem {text : String} (h : capitalSigma ∉ text.toList) (before after : String) :
    KeepsSigmas before text after := by
  intro first rest htext
  exact absurd (htext ▸ List.mem_append_right first List.mem_cons_self) h

/-- Where a text is found between two others. -/
structure FoundWithin (before text after : String) : Prop where
  /-- It is found where its lower case stands in the lower case of all. -/
  anywhere : like (before ++ text ++ after) ("%" ++ text ++ "%") = true ↔
    units (lower text) <:+: units (lower (before ++ text ++ after))
  between : KeepsSigmas before text after → like (before ++ text ++ after) ("%" ++ text ++ "%") = true
  beginning : like (text ++ after) (text ++ "%") = true ↔ KeepsSigmas "" text after
  ending : like (before ++ text) ("%" ++ text) = true ↔ KeepsSigmas before text ""

/-- **A text without signs is found before and after others exactly if its capital sigmas end words
there as they do in the text alone**, and between them in any case then. -/
theorem like_within (before text after : String) (h : ∀ c ∈ text.toList, ¬ IsSign c) :
    FoundWithin before text after := by
  have hlength (cased : Bool) (rest : List Char) :
      (units (lower text)).length = (unitsWithin cased text.toList rest).length := by
    rw [units_lower]
    exact length_unitsWithin _ _ _ _ _
  have hkeeps (cased : Bool) (rest : List Char) :
      unitsWithin cased text.toList rest = units (lower text) ↔
        SigmasAlike cased false text.toList rest [] := by
    rw [units_lower]
    exact unitsWithin_eq_iff
  constructor
  case anywhere => exact percent_like_percent h
  case between =>
    intro hsigmas
    rw [percent_like_percent h, units_lower (before ++ text ++ after), String.toList_append,
      String.toList_append, unitsWithin_append, unitsWithin_append, List.append_nil,
      (hkeeps _ _).2 hsigmas]
    exact List.infix_append _ _ _
  case beginning =>
    rw [like_percent h, units_lower (text ++ after), String.toList_append, unitsWithin_append,
      List.append_nil]
    refine Iff.trans ?_ (hkeeps false after.toList)
    constructor
    · rintro ⟨rest, hrest⟩
      exact (List.append_inj hrest (hlength _ _)).1.symm
    · intro heq
      rw [heq]
      exact List.prefix_append _ _
  case ending =>
    rw [percent_like h, units_lower (before ++ text), String.toList_append, unitsWithin_append]
    refine Iff.trans ?_ (hkeeps (casedAfter false before.toList) [])
    constructor
    · rintro ⟨rest, hrest⟩
      exact (List.append_inj' hrest (hlength _ _)).2.symm
    · intro heq
      rw [heq]
      exact List.suffix_append _ _

/-- A word that ends in a sigma is found where it ends a longer one. -/
theorem like_within_word : (∀ c ∈ "ΣΟΦΟΣ".toList, ¬ IsSign c) ∧
    KeepsSigmas "ΦΙΛΟ" "ΣΟΦΟΣ" " ΑΝΗΡ" ∧ FoundWithin "ΦΙΛΟ" "ΣΟΦΟΣ" " ΑΝΗΡ" := by
  have hsigns : ∀ c ∈ "ΣΟΦΟΣ".toList, ¬ IsSign c := not_isSign_of_all (by decide)
  exact ⟨hsigns, by decide +kernel, like_within "ΦΙΛΟ" "ΣΟΦΟΣ" " ΑΝΗΡ" hsigns⟩

/-- A sigma that ends a word in the text that is looked for, and stands within one in the text that it
is looked for in, or the other way round. -/
theorem not_like_goesOn : (∀ c ∈ "ΑΣ".toList, ¬ IsSign c) ∧ (∀ c ∈ "Σ".toList, ¬ IsSign c) ∧
    like ("" ++ "ΑΣ" ++ "Α") ("%" ++ "ΑΣ" ++ "%") = false ∧ like ("ΑΣ" ++ "Α") ("ΑΣ" ++ "%") = false ∧
    like ("Α" ++ "Σ") ("%" ++ "Σ") = false :=
  ⟨not_isSign_of_all (by decide), not_isSign_of_all (by decide), by decide +kernel⟩

end RelStore
