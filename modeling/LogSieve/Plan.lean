import LogSieve.Expression
import LogSieve.Review

/-! The plan of a list of criteria: cheap and narrow conditions come first, so that costly ones see
fewer records. -/

namespace LogSieve

structure Planned where
  criterion : Criterion
  selectivity : Float
  cost : Float
  score : Float

namespace Plan

def costWeight : Float := 0.1

def entry (matching : Matching) (criterion : Criterion) : Except FilterError Planned := do
  let comparison ← Comparison.named matching criterion.field criterion.operator
  let selectivity := comparison.selectivity criterion.value
  let cost := comparison.cost
  return ⟨criterion, selectivity, cost, selectivity + costWeight * cost⟩

end Plan

def Planned.rank (planned : Planned) : Nat := Decimal.totalKey planned.score

/-- The criteria by rising score; equal scores keep their order. -/
def plan (matching : Matching) (criteria : List Criterion) : Except FilterError (List Planned) := do
  return Ranking.ranked Planned.rank (← criteria.mapM (Plan.entry matching))

/-- One criterion is a condition of its own, several are a conjunction in the order of the plan. -/
def expressionOf (matching : Matching) : List Criterion → Except FilterError Expression
  | [criterion] => do return .leaf (← Leaf.ofCriterion matching criterion)
  | criteria => do
    let planned ← plan matching criteria
    let leaves ← planned.mapM fun entry => Leaf.ofCriterion matching entry.criterion
    return .allOf true (leaves.map .leaf)

end LogSieve
