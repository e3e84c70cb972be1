import LogSieve.Evaluation
import LogSieve.Plan

/-! Applying criteria to records: they are reviewed first, and nothing is applied if one of them
has an error. -/

namespace LogSieve

/-- The records of the source that meet all criteria, up to the first error. -/
def sieve (matching : Matching) (criteria : List Criterion) (source : Flow) :
    Except FilterError Flow := do
  let findings := review matching criteria
  if findings.valid then
    let expression ← expressionOf matching criteria
    return expression.apply source
  else throw (.invalidCriteria findings.errors)

end LogSieve
