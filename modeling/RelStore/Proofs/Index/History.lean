/-
What an index says of the changes that were made to it.

An index that starts empty and takes additions and removals, of any values and ids in any order, has
under a value the ids whose last change there was an addition (`Listed`), and has the values that have
such ids, in the order in which each came to have some and has had some since (`filledInOrder`). Both
are told of the list of changes alone, by what is added last and by what its beginnings come to.

The proof goes through the changes from the front: what is listed after one more change is told by
that change and by what was listed (`listed_append`, `filledInOrder_append`), and an index takes the
same steps (`represents_run`, `values_apply`).
-/
import Mathlib.Data.List.Induction
import RelStore.Proofs.Index
import RelStore.Proofs.Value

namespace RelStore

/-- One value, or two that are equal, where NULL equals NULL. -/
def Value.Equals (v w : Value) : Prop := v = w ∨ v.same w = true

instance (v w : Value) : Decidable (v.Equals w) := inferInstanceAs (Decidable (_ ∨ _))

theorem Value.equals_iff_key_eq {v w : Value} : v.Equals w ↔ v.key = w.key := by
  by_cases hnan : v.key = .nan
  · -- only `nan` has the key of `nan`, and equals no other value
    obtain rfl := key_eq_nan_iff.1 hnan
    have hunequal : same (some (.number .nan)) w ≠ true := by
      rcases w with _ | ⟨_ | _⟩ | _ | _ <;> exact nofun
    refine ⟨?_, fun h => .inl (key_eq_nan_iff.1 h.symm).symm⟩
    rintro (rfl | h)
    · rfl
    · exact absurd h hunequal
  · rw [Equals, same_iff_key_eq hnan]
    exact or_iff_right_of_imp (congrArg key)

namespace Index

inductive Change where
  | add (value : Value) (id : Nat)
  | remove (value : Value) (id : Nat)
  deriving DecidableEq, Repr

namespace Change

def value : Change → Value
  | add value _ => value
  | remove value _ => value

def id : Change → Nat
  | add _ id => id
  | remove _ id => id

def isAddition : Change → Bool
  | add _ _ => true
  | remove _ _ => false

/-- The change is one of this id under a value equal to this one. -/
def Concerns (change : Change) (v : Value) (id : Nat) : Prop := change.value.Equals v ∧ change.id = id

instance (change : Change) (v : Value) (id : Nat) : Decidable (change.Concerns v id) :=
  inferInstanceAs (Decidable (_ ∧ _))

end Change

def apply (index : Index) : Change → Index
  | .add value id => index.add value id
  | .remove value id => index.remove value id

def run (index : Index) (changes : List Change) : Index := changes.foldl apply index

/-! ## What changes come to -/

/-- The last change of the id under a value equal to this one is an addition. -/
def Listed (changes : List Change) (v : Value) (id : Nat) : Prop :=
  (changes.reverse.find? fun change => change.Concerns v id).any (·.isAddition) = true

instance (changes : List Change) (v : Value) (id : Nat) : Decidable (Listed changes v id) :=
  inferInstanceAs (Decidable (_ = _))

/-- The value has ids after the changes. -/
def Filled (changes : List Change) (v : Value) : Prop := ∃ change ∈ changes, Listed changes v change.id

instance (changes : List Change) (v : Value) : Decidable (Filled changes v) :=
  inferInstanceAs (Decidable (∃ change ∈ changes, _))

/-- The value has no ids after `n` changes, and has some after any more of them. -/
def FilledSince (changes : List Change) (v : Value) (n : Nat) : Prop :=
  ¬ Filled (changes.take n) v ∧ ∀ m ≤ changes.length, n < m → Filled (changes.take m) v

instance (changes : List Change) (v : Value) (n : Nat) : Decidable (FilledSince changes v n) :=
  inferInstanceAs (Decidable (_ ∧ _))

/-- The values of the changes since which they have had ids, in the order of these changes. -/
def filledInOrder (changes : List Change) : List Value :=
  (changes.zipIdx.filter fun entry => FilledSince changes entry.1.value entry.2).map (·.1.value)

section

variable {changes : List Change} {change : Change} {v w : Value} {id n : Nat}

theorem Change.concerns_iff : change.Concerns v id ↔ change.value.key = v.key ∧ change.id = id :=
  and_congr_left' Value.equals_iff_key_eq

theorem listed_append :
    Listed (changes ++ [change]) v id ↔
      if change.Concerns v id then change.isAddition = true else Listed changes v id := by
  rw [Listed, List.reverse_append, List.reverse_singleton, List.singleton_append, List.find?_cons]
  by_cases hchange : change.Concerns v id
  · simp [hchange]
  · simp [hchange, Listed]

theorem listed_congr (h : v.key = w.key) : Listed changes v id ↔ Listed changes w id := by
  simp only [Listed, Change.concerns_iff, h]

theorem exists_listed_iff : (∃ w, Value.key w = v.key ∧ Listed changes w id) ↔ Listed changes v id :=
  ⟨fun ⟨_, hkey, h⟩ => (listed_congr hkey).1 h, fun h => ⟨v, rfl, h⟩⟩

theorem filled_iff : Filled changes v ↔ ∃ id, Listed changes v id := by
  refine ⟨fun ⟨change, _, h⟩ => ⟨change.id, h⟩, fun ⟨id, h⟩ => ?_⟩
  obtain ⟨change, hfind, -⟩ := (Option.any_eq_true _ _).1 h
  have hconcerns : change.Concerns v id := by simpa using List.find?_some hfind
  exact ⟨change, List.mem_reverse.1 (List.mem_of_find?_eq_some hfind), hconcerns.2 ▸ h⟩

theorem filledSince_append (h : n ≤ changes.length) :
    FilledSince (changes ++ [change]) v n ↔ FilledSince changes v n ∧ Filled (changes ++ [change]) v := by
  have hbefore : ∀ m ≤ changes.length, (changes ++ [change]).take m = changes.take m :=
    fun m hm => List.take_append_of_le_length hm
  have hall : (changes ++ [change]).take (changes.length + 1) = changes ++ [change] :=
    List.take_of_length_le (by simp)
  rw [FilledSince, FilledSince, and_assoc, hbefore n h, List.length_append, List.length_singleton]
  refine and_congr_right fun _ => ⟨fun hsince => ⟨fun m hm hnm => ?_, ?_⟩, ?_⟩
  · rw [← hbefore m hm]
    exact hsince m (Nat.le_succ_of_le hm) hnm
  · rw [← hall]
    exact hsince _ (Nat.le_refl _) (Nat.lt_succ_of_le h)
  · rintro ⟨hsince, hfilled⟩ m hm hnm
    rcases Nat.le_succ_iff.1 hm with hm | rfl
    · rw [hbefore m hm]
      exact hsince m hm hnm
    · rwa [hall]

theorem filledSince_length : FilledSince changes v changes.length ↔ ¬ Filled changes v := by
  rw [FilledSince, List.take_length]
  exact and_iff_left fun m hm hlt => absurd hlt (Nat.not_lt.2 hm)

/-- One more change takes away the values that it leaves without ids, and puts its own value last if
it had none before and has some now. -/
theorem filledInOrder_append :
    filledInOrder (changes ++ [change]) =
      (filledInOrder changes).filter (fun v => Filled (changes ++ [change]) v) ++
        if ¬ Filled changes change.value ∧ Filled (changes ++ [change]) change.value then [change.value]
        else [] := by
  have hbefore : ∀ entry ∈ changes.zipIdx,
      decide (FilledSince (changes ++ [change]) entry.1.value entry.2) =
        (decide (Filled (changes ++ [change]) entry.1.value) &&
          decide (FilledSince changes entry.1.value entry.2)) := by
    intro entry hentry
    have hplace : entry.2 < changes.length := by simpa using List.snd_lt_add_of_mem_zipIdx hentry
    rw [decide_eq_decide.2 (filledSince_append (Nat.le_of_lt hplace)), Bool.decide_and, Bool.and_comm]
  rw [filledInOrder, List.zipIdx_append, List.filter_append, List.map_append, List.filter_congr hbefore,
    ← List.filter_filter, filledInOrder, List.filter_map]
  refine congrArg₂ (· ++ ·) rfl ?_
  simp only [Nat.zero_add, List.zipIdx_singleton, List.filter_singleton,
    filledSince_append (Nat.le_refl changes.length), filledSince_length, Bool.cond_decide]
  exact apply_ite (List.map _) _ _ _

/-! ## What an index comes to -/

variable {index : Index} {holds : Nat → Key → Prop} {column : String}

theorem run_append : index.run (changes ++ [change]) = (index.run changes).apply change :=
  List.foldl_concat ..

theorem Represents.apply (h : index.Represents holds) (change : Change) :
    (index.apply change).Represents fun id k =>
      if change.value.key = k ∧ change.id = id then change.isAddition = true else holds id k := by
  cases change with
  | add v id =>
    refine (h.add v id).congr fun other w => ?_
    show (holds other w.key ∨ other = id ∧ w.key = v.key) ↔
      if v.key = w.key ∧ id = other then true = true else holds other w.key
    split
    next hpair => exact iff_of_true (.inr ⟨hpair.2.symm, hpair.1.symm⟩) rfl
    next hpair => exact or_iff_left fun hpair' => hpair ⟨hpair'.2.symm, hpair'.1.symm⟩
  | remove v id =>
    refine (h.remove v id).congr fun other w => ?_
    show (holds other w.key ∧ ¬ (other = id ∧ w.key = v.key)) ↔
      if v.key = w.key ∧ id = other then false = true else holds other w.key
    split
    next hpair => exact iff_of_false (fun hheld => hheld.2 ⟨hpair.2.symm, hpair.1.symm⟩) nofun
    next hpair => exact and_iff_left fun hpair' => hpair ⟨hpair'.2.symm, hpair'.1.symm⟩

/-- As `filledInOrder_append` says of the values in order. -/
theorem Represents.values_apply (h : index.Represents holds) (change : Change) :
    (index.apply change).values =
      index.values.filter (index.apply change).has ++
        if index.has change.value = false ∧ (index.apply change).has change.value then [change.value]
        else [] := by
  cases change with
  | add v id =>
    have hadded := (h.add v id).has_iff
    have hkept : index.values.filter (index.add v id).has = index.values := by
      refine List.filter_eq_self.2 fun w hw => (hadded w).2 ?_
      obtain ⟨other, hother⟩ := (h.exists_value_iff w).1 ⟨w, hw, rfl⟩
      exact ⟨other, .inl hother⟩
    have hnew : (index.add v id).has v = true := (hadded v).2 ⟨id, .inr ⟨rfl, rfl⟩⟩
    show (index.add v id).values = index.values.filter (index.add v id).has ++
      if index.has v = false ∧ (index.add v id).has v = true then [v] else []
    rw [hkept, values_add]
    cases index.has v <;> simp [hnew]
  | remove v id =>
    have hold : ¬ (index.has v = false ∧ (index.remove v id).has v = true) := by
      rintro ⟨hnot, hleft⟩
      obtain ⟨other, hother, -⟩ := ((h.remove v id).has_iff v).1 hleft
      rw [(h.has_iff v).2 ⟨other, hother⟩] at hnot
      cases hnot
    show (index.remove v id).values = index.values.filter (index.remove v id).has ++
      if index.has v = false ∧ (index.remove v id).has v = true then [v] else []
    rw [if_neg hold, List.append_nil, h.values_remove]

/-- After changes to an empty index, ids stand under a value as they are listed under it. -/
theorem represents_run (column : String) (changes : List Change) :
    ((empty column).run changes).Represents fun id k => ∃ v, Value.key v = k ∧ Listed changes v id := by
  induction changes using List.reverseRecOn with
  | nil => exact (Represents.empty column).congr fun id v => iff_of_false nofun nofun
  | append_singleton changes change ih =>
    rw [run_append]
    refine (ih.apply change).congr fun id w => ?_
    rw [exists_listed_iff, exists_listed_iff, listed_append]
    simp only [Change.concerns_iff]

theorem mem_lookup_run : id ∈ ((empty column).run changes).lookup v ↔ Listed changes v id :=
  ((represents_run column changes).mem_lookup v id).trans exists_listed_iff

theorem has_run : ((empty column).run changes).has v = true ↔ Filled changes v := by
  rw [(represents_run column changes).has_iff v, filled_iff]
  exact exists_congr fun id => exists_listed_iff

theorem values_run : ((empty column).run changes).values = filledInOrder changes := by
  induction changes using List.reverseRecOn with
  | nil => rfl
  | append_singleton changes change ih =>
    have hhas : ((empty column).run (changes ++ [change])).has =
        fun v => decide (Filled (changes ++ [change]) v) :=
      funext fun v => Bool.eq_iff_iff.2 (has_run.trans decide_eq_true_iff.symm)
    rw [run_append] at hhas ⊢
    rw [(represents_run column changes).values_apply change, ih, filledInOrder_append, hhas]
    simp only [← Bool.not_eq_true, has_run, decide_eq_true_eq]

/-- **An index is the multimap its changes describe.** After any additions and removals of values and
ids, an index that was empty gives for a value, in ascending order, the ids whose last change under
an equal value was an addition; it has the value exactly if there are such ids; and its values are
those that have some, each once, in the order in which they last came to have some. -/
theorem run_faithful (column : String) (changes : List Change) :
    let index := (empty column).run changes
    (∀ v, (index.lookup v).Pairwise (· < ·) ∧ (∀ id, id ∈ index.lookup v ↔ Listed changes v id) ∧
      (index.has v = true ↔ index.lookup v ≠ []) ∧
      ((∃ w ∈ index.values, w.Equals v) ↔ index.lookup v ≠ [])) ∧
      index.values = filledInOrder changes ∧ index.values.Pairwise (¬ ·.Equals ·) := by
  intro index
  have hrun := represents_run column changes
  refine ⟨fun v => ⟨hrun.pairwise_lookup v, fun id => mem_lookup_run, hrun.has_iff_lookup_ne_nil v, ?_⟩,
    values_run, ?_⟩
  · rw [← hrun.has_iff_lookup_ne_nil v, hrun.has_iff v, ← hrun.exists_value_iff v]
    exact exists_congr fun w => and_congr_right' Value.equals_iff_key_eq
  · refine (List.pairwise_map.1 hrun.nodup_values).imp fun hne hequals => hne ?_
    exact Value.equals_iff_key_eq.1 hequals

/-- A value that has lost its ids comes last when it has some again. -/
example :
    let eng := Value.ofText "eng"
    filledInOrder [.add eng 1, .add none 2, .remove eng 1, .add eng 3] = [none, eng] := by
  decide +kernel

end

end Index

end RelStore
