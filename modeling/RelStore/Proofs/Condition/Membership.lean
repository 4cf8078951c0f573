/-
IN is a disjunction of equalities, and NOT IN a conjunction of inequalities.

A list of members is gone through with an exit at the first equal one and with a NULL that is
remembered, whereas connectives are nested in one another. Both are told by the truths that the
members have one by one: what the list gives is their disjunction (`evalMember_eq_ok`), and so is
what any tree of OR with these equalities gives, however it is bracketed (`truth_of_disjuncts`).
For NOT IN the same goes through De Morgan's law for many (`Truth.not_any`).
-/
import RelStore.Proofs.Condition.Connectives

namespace RelStore

/-! ## Truths of many -/

namespace Truth

def any (ts : List Truth) : Truth := ts.foldr or (some false)

def all (ts : List Truth) : Truth := ts.foldr and (some true)

theorem any_cons (t : Truth) (ts : List Truth) : any (t :: ts) = t.or (any ts) := rfl

theorem any_append (ts us : List Truth) : any (ts ++ us) = (any ts).or (any us) := by
  induction ts with
  | nil => exact (false_or _).symm
  | cons t ts ih => exact (congrArg t.or ih).trans (or_assoc t _ _).symm

theorem all_append (ts us : List Truth) : all (ts ++ us) = (all ts).and (all us) := by
  induction ts with
  | nil => exact (true_and _).symm
  | cons t ts ih => exact (congrArg t.and ih).trans (and_assoc t _ _).symm

theorem any_singleton (t : Truth) : any [t] = t := or_false t

theorem all_singleton (t : Truth) : all [t] = t := by
  rcases t with _ | _ | _ <;> rfl

theorem not_any (ts : List Truth) : (any ts).not = all (ts.map not) := by
  induction ts with
  | nil => rfl
  | cons t ts ih => exact (not_or t _).trans (congrArg t.not.and ih)

/-- Nothing but unknown truths leaves it open. -/
theorem any_eq_none {ts : List Truth} (hne : ts ≠ []) (h : ∀ t ∈ ts, t = none) : any ts = none := by
  induction ts with
  | nil => exact absurd rfl hne
  | cons t ts ih =>
    obtain ⟨rfl, hrest⟩ := List.forall_mem_cons.1 h
    cases ts with
    | nil => rfl
    | cons u us =>
      rw [any_cons, ih (List.cons_ne_nil _ _) hrest]
      rfl

end Truth

/-- Whether two values are equal: unknown if one is NULL. -/
def Value.equal : Value → Value → Truth
  | some a, some b => some (a.same b)
  | _, _ => none

namespace Sql

theorem CompareOp.apply_eq_equal (v w : Value) : CompareOp.eq.apply v w = .ok (v.equal w) := by
  rcases v with _ | _ <;> rcases w with _ | _ <;> rfl

theorem CompareOp.apply_ltGt_equal (v w : Value) : CompareOp.ltGt.apply v w = .ok (v.equal w).not := by
  rcases v with _ | _ <;> rcases w with _ | _ <;> rfl

/-! ## Connectives -/

/-- What a condition is put together from by OR, in its order. -/
def Expr.disjuncts : Expr → List Expr
  | .or left right => left.disjuncts ++ right.disjuncts
  | e => [e]

/-- What a condition is put together from by AND, in its order. -/
def Expr.conjuncts : Expr → List Expr
  | .and left right => left.conjuncts ++ right.conjuncts
  | e => [e]

section

variable {leaves : Leaves (Except Cause)} {truthOf : Expr → Truth}

theorem Expr.truth_or_eq_ok {left right : Expr} {a b : Truth} (ha : left.truth leaves = .ok a)
    (hb : right.truth leaves = .ok b) : (Expr.or left right).truth leaves = .ok (a.or b) := by
  rw [truth_or, ha, hb]
  rcases a with _ | _ | _ <;> rcases b with _ | _ | _ <;> rfl

theorem Expr.truth_and_eq_ok {left right : Expr} {a b : Truth} (ha : left.truth leaves = .ok a)
    (hb : right.truth leaves = .ok b) : (Expr.and left right).truth leaves = .ok (a.and b) := by
  rw [truth_and, ha, hb]
  rcases a with _ | _ | _ <;> rcases b with _ | _ | _ <;> rfl

/-- A disjunction has the truth that its disjuncts have together. -/
theorem Expr.truth_of_disjuncts (e : Expr) (h : ∀ d ∈ e.disjuncts, d.truth leaves = .ok (truthOf d)) :
    e.truth leaves = .ok (Truth.any (e.disjuncts.map truthOf)) := by
  fun_induction Expr.disjuncts e with
  | case1 left right ihl ihr =>
    obtain ⟨hl, hr⟩ := List.forall_mem_append.1 h
    rw [truth_or_eq_ok (ihl hl) (ihr hr), List.map_append, Truth.any_append]
  | case2 e => rw [h e (List.mem_singleton_self e), List.map_singleton, Truth.any_singleton]

/-- A conjunction has the truth that its conjuncts have together. -/
theorem Expr.truth_of_conjuncts (e : Expr) (h : ∀ d ∈ e.conjuncts, d.truth leaves = .ok (truthOf d)) :
    e.truth leaves = .ok (Truth.all (e.conjuncts.map truthOf)) := by
  fun_induction Expr.conjuncts e with
  | case1 left right ihl ihr =>
    obtain ⟨hl, hr⟩ := List.forall_mem_append.1 h
    rw [truth_and_eq_ok (ihl hl) (ihr hr), List.map_append, Truth.all_append]
  | case2 e => rw [h e (List.mem_singleton_self e), List.map_singleton, Truth.all_singleton]

/-! ## Members -/

/-- The members that were gone through before matter by a NULL among them only. -/
theorem evalMember_eq_ok {valueOf : Expr → Value} (probe : Scalar) (sawNull : Bool) (vs : List Expr)
    (h : ∀ v ∈ vs, v.eval leaves = .ok (valueOf v)) : evalMember leaves probe sawNull vs =
      .ok (Truth.or (if sawNull then none else some false)
        (Truth.any (vs.map fun v => Value.equal (some probe) (valueOf v)))) := by
  induction vs generalizing sawNull with
  | nil => cases sawNull <;> rfl
  | cons candidate rest ih =>
    obtain ⟨hcandidate, hrest⟩ := List.forall_mem_cons.1 h
    rw [evalMember, hcandidate, List.map_cons, Truth.any_cons, ← Truth.or_assoc]
    cases hvalue : valueOf candidate with
    | none =>
      refine (ih true hrest).trans ?_
      cases sawNull <;> rfl
    | some value =>
      cases hsame : probe.same value with
      | true => simp [bind, Except.bind, pure, Except.pure, Value.equal, hsame]
      | false =>
        refine Eq.trans ?_ ((ih sawNull hrest).trans ?_)
        · simp [bind, Except.bind, hsame]
        · simp [Value.equal, hsame]

/-- What a list of members gives, from the values. -/
theorem Expr.truth_inList_eq_ok {valueOf : Expr → Value} {x : Expr} {vs : List Expr}
    (hne : vs ≠ []) (h : ∀ v ∈ x :: vs, v.eval leaves = .ok (valueOf v)) (negated : Bool) :
    (Expr.inList x vs negated).truth leaves =
      .ok ((Truth.any (vs.map fun v => (valueOf x).equal (valueOf v))).flip negated) := by
  obtain ⟨hx, hvs⟩ := List.forall_mem_cons.1 h
  rw [truth_inList, hx]
  cases hprobe : valueOf x with
  | none =>
    rw [Truth.any_eq_none (by simpa using hne) (by simp [Value.equal])]
    cases negated <;> rfl
  | some probe =>
    refine (congrArg (Truth.flip negated <$> ·) (evalMember_eq_ok probe false vs hvs)).trans ?_
    rw [if_neg Bool.false_ne_true, Truth.false_or]
    rfl

theorem Expr.truth_comparison_eq_ok {op : CompareOp} {left right : Expr} {v w : Value} {t : Truth}
    (hl : left.eval leaves = .ok v) (hr : right.eval leaves = .ok w) (h : op.apply v w = .ok t) :
    (Expr.comparison op left right).truth leaves = .ok t := by
  rw [truth_comparison, hl, hr]
  exact congrArg raised h

end

/-- **IN is a disjunction of equalities, and NOT IN a conjunction of inequalities.** For every operand
and all members that have values, the list is true, false or unknown as the comparisons are that are
put together by OR, or by AND, in whatever way they are bracketed. -/
theorem inList_disjunction {leaves : Leaves (Except Cause)} {x : Expr} {vs : List Expr}
    (hne : vs ≠ []) (h : ∀ v ∈ x :: vs, ∃ value, v.eval leaves = .ok value) :
    (∃ t, (Expr.inList x vs false).truth leaves = .ok t ∧
      ∀ e : Expr, e.disjuncts = vs.map (.comparison .eq x ·) → e.truth leaves = .ok t) ∧
    ∃ t, (Expr.inList x vs true).truth leaves = .ok t ∧
      ∀ e : Expr, e.conjuncts = vs.map (.comparison .ltGt x ·) → e.truth leaves = .ok t := by
  obtain ⟨valueOf, hvalues⟩ : ∃ valueOf : Expr → Value, ∀ v ∈ x :: vs,
      v.eval leaves = .ok (valueOf v) := by
    refine ⟨fun v => match v.eval leaves with | .ok value => value | .error _ => none, ?_⟩
    intro v hv
    obtain ⟨value, hvalue⟩ := h v hv
    simp only [hvalue]
  obtain ⟨hx, hvs⟩ := List.forall_mem_cons.1 hvalues
  -- the truth of a comparison with a member, from the condition that makes it
  let equalOf : Expr → Truth
    | .comparison _ left right => (valueOf left).equal (valueOf right)
    | _ => none
  constructor
  · refine ⟨_, Expr.truth_inList_eq_ok hne hvalues false, fun e he => ?_⟩
    have htruth : ∀ d ∈ e.disjuncts, d.truth leaves = .ok (equalOf d) := by
      rw [he, List.forall_mem_map]
      exact fun v hv => Expr.truth_comparison_eq_ok hx (hvs v hv) (CompareOp.apply_eq_equal _ _)
    rw [e.truth_of_disjuncts htruth, he, List.map_map]
    rfl
  · refine ⟨_, Expr.truth_inList_eq_ok hne hvalues true, fun e he => ?_⟩
    have htruth : ∀ d ∈ e.conjuncts, d.truth leaves = .ok (equalOf d).not := by
      rw [he, List.forall_mem_map]
      exact fun v hv => Expr.truth_comparison_eq_ok hx (hvs v hv) (CompareOp.apply_ltGt_equal _ _)
    rw [e.truth_of_conjuncts htruth, he, List.map_map, Truth.flip, if_pos rfl, Truth.not_any,
      List.map_map]
    rfl

/-- A row with a grade and without a best one. -/
def gradeLeaves : Leaves (Except Cause) where
  column ref := .ok (if ref.column = "grade" then Value.ofText "C" else none)
  aggregate call := .error (.aggregateOutsideGroup call.text)

/-- `grade IN (best, 'A', TRUE, 'A')` where `best` is NULL: it is open whether the grade is one of
them. -/
theorem inList_disjunction_grade :
    let grade : Expr := .column ⟨none, "grade"⟩
    let best : Expr := .column ⟨none, "best"⟩
    let text : Expr := .literal (Value.ofText "A")
    let flag : Expr := .literal (Value.ofBool true)
    let is (v : Expr) : Expr := .comparison .eq grade v
    let isNot (v : Expr) : Expr := .comparison .ltGt grade v
    (∀ v ∈ [grade, best, text, flag, text], ∃ value, v.eval gradeLeaves = .ok value) ∧
      (Expr.or (.or (.or (is best) (is text)) (is flag)) (is text)).truth gradeLeaves = .ok none ∧
      (Expr.and (isNot best) (.and (isNot text) (.and (isNot flag) (isNot text)))).truth gradeLeaves =
        .ok none := by
  intro grade best text flag is isNot
  have hvalues : ∀ v ∈ [grade, best, text, flag, text], ∃ value, v.eval gradeLeaves = .ok value := by
    simp only [List.forall_mem_cons]
    exact ⟨⟨_, rfl⟩, ⟨_, rfl⟩, ⟨_, rfl⟩, ⟨_, rfl⟩, ⟨_, rfl⟩, nofun⟩
  obtain ⟨⟨t, ht, hor⟩, u, hu, hand⟩ := inList_disjunction (List.cons_ne_nil _ _) hvalues
  have hlist (negated : Bool) :
      (Expr.inList grade [best, text, flag, text] negated).truth gradeLeaves = .ok none := by
    cases negated <;> rfl
  obtain rfl : t = none := Except.ok.inj (ht.symm.trans (hlist false))
  obtain rfl : u = none := Except.ok.inj (hu.symm.trans (hlist true))
  exact ⟨hvalues, hor _ rfl, hand _ rfl⟩

end Sql

end RelStore
