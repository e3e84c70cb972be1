import LogSieve.Expression
import LogSieve.Flow

/-! Running an expression over a flow. Conditions and conjunctions answer as they go; a disjunction
and a complement take the whole source first, because every part has to see all of it. A
disjunction gives the records of its parts in the order of the parts, each record once. -/

namespace LogSieve.Expression

open LogSieve.Flow

mutual

def evaluate : Expression → Flow → Flow
  | leaf condition, source => sift condition.accepts (guarded source)
  | allOf planned parts, source =>
    (if planned then stages parts else Ranking.ranked Prod.fst (stages parts)).foldl
      (fun flow stage => stage.2 flow) (guarded source)
  | anyOf [], source => guarded source
  | anyOf (part :: parts), source =>
    check cancelled
      (gather (fun records => alternatives (part :: parts) (ofRecords records) []) []
        (guarded source))
  | complement part, source =>
    gather (fun records =>
      keys (fun excluded => remaining excluded records) [] (evaluate part (ofRecords records))) []
        (guarded source)

def stages : List Expression → List (Nat × (Flow → Flow))
  | [] => []
  | part :: parts => (part.rank, evaluate part) :: stages parts

def alternatives : List Expression → Flow → List RecordKey → Flow
  | [], _, _ => ended
  | part :: parts, records, seen =>
    check cancelled (fresh (alternatives parts records) seen (evaluate part records))

end

theorem stages_eq_map (parts : List Expression) :
    stages parts = parts.map fun part => (part.rank, evaluate part) := by
  induction parts with
  | nil => rfl
  | cons part parts ih => simp [stages, ih]

theorem evaluate_allOf (planned : Bool) (parts : List Expression) (source : Flow) :
    evaluate (allOf planned parts) source =
      (allOf planned parts).executionOrder.foldl (fun flow part => evaluate part flow)
        (guarded source) := by
  cases planned with
  | true => simp [evaluate, executionOrder, Expression.parts, stages_eq_map, List.foldl_map]
  | false =>
    simp [evaluate, executionOrder, stages_eq_map, Ranking.ranked_map, List.foldl_map]

/-- The records that pass; the first error ends the flow. -/
def apply (expression : Expression) (source : Flow) : Flow :=
  untilError (evaluate expression source)

end LogSieve.Expression
