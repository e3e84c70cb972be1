import LogSieve.Proofs.DoubleOrder
import LogSieve.Proofs.Ranking

/-! Stable sorting by a score. The scores of a sorted list rise in the total order of doubles, and
items of one score stand as they stood; both together leave one list only. A conjunction whose order
has not been planned runs its parts sorted by their selectivities, and every other combination runs
them as they were given. -/

namespace LogSieve

namespace Ranking

variable {α : Type}

/-- The list is a stable sort of the items by their scores. -/
structure IsStableSort (score : α → Float) (items sorted : List α) : Prop where
  perm : sorted.Perm items
  rising : sorted.Pairwise fun first second => Decimal.NotAbove (score first) (score second)
  stable : ∀ number : Float,
    sorted.filter (fun item => score item = number) =
      items.filter fun item => score item = number

theorem filter_score (score : α → Float) (items : List α) (number : Float) :
    items.filter (fun item => score item = number) =
      items.filter fun item => Decimal.totalKey (score item) = Decimal.totalKey number :=
  List.filter_congr fun _ _ =>
    decide_eq_decide.mpr ⟨congrArg Decimal.totalKey, Decimal.totalKey_injective⟩

theorem isStableSort_ranked (score : α → Float) (items : List α) :
    IsStableSort score items (ranked (fun item => Decimal.totalKey (score item)) items) where
  perm := ranked_perm _ items
  rising := (ranked_pairwise _ items).imp fun {first second} below =>
    (Decimal.totalKey_le_iff (score first) (score second)).mp below
  stable number := by rw [filter_score, filter_score, ranked_filter]

theorem IsStableSort.eq {score : α → Float} {items first second : List α}
    (sorted : IsStableSort score items first) (sorted' : IsStableSort score items second) :
    first = second := by
  have rising {list : List α} (sorted : IsStableSort score items list) :
      list.Pairwise fun a b => Decimal.totalKey (score a) ≤ Decimal.totalKey (score b) :=
    sorted.rising.imp fun {a b} above => (Decimal.totalKey_le_iff (score a) (score b)).mpr above
  refine eq_of_filter (fun number => ?_) (rising sorted) (rising sorted')
  have same (number : Float) := (sorted.stable number).trans (sorted'.stable number).symm
  by_cases taken : ∃ item ∈ items, Decimal.totalKey (score item) = number
  · obtain ⟨item, -, rfl⟩ := taken
    simpa only [filter_score] using same (score item)
  · push Not at taken
    have none {list : List α} (sorted : IsStableSort score items list) :
        list.filter (fun item => Decimal.totalKey (score item) = number) = [] := by
      simpa using fun item member => taken item (sorted.perm.mem_iff.mp member)
    rw [none sorted, none sorted']

end Ranking

namespace Expression

/-- A conjunction whose order has not been planned runs its parts sorted by their selectivities, each
of them once, and parts of one selectivity as they were given. Where the order has been planned, in
a disjunction and in a complement, the parts are run as they were given. -/
theorem executionOrder_stableSort :
    (∀ expression : Expression, expression.executionOrder.Perm expression.parts) ∧
    (∀ parts order, (allOf false parts).executionOrder = order ↔
      Ranking.IsStableSort selectivity parts order) ∧
    (∀ parts, (allOf true parts).executionOrder = parts) ∧
    (∀ parts, (anyOf parts).executionOrder = parts) ∧
    ∀ part, (complement part).executionOrder = [part] := by
  refine ⟨executionOrder_perm, fun parts order => ?_, fun _ => rfl, fun _ => rfl, fun _ => rfl⟩
  have sorted := Ranking.isStableSort_ranked selectivity parts
  constructor
  · rintro rfl
    exact sorted
  · exact sorted.eq

end Expression

end LogSieve
