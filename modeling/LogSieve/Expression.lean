import LogSieve.Comparison
import LogSieve.Criterion
import LogSieve.Ranking

/-! Expressions: conditions on records, combined. A combination without parts lets every record
pass. Parts of a conjunction are run one after the other, those that let fewest records pass first,
unless their order has been planned. -/

namespace LogSieve

structure Leaf where
  field : Field
  operator : Operator
  value : Json
  accepts : Record → Bool

inductive Expression where
  | leaf (condition : Leaf)
  | allOf (planned : Bool) (parts : List Expression)
  | anyOf (parts : List Expression)
  | complement (part : Expression)

inductive Junction where
  | and
  | or
  | not
  deriving DecidableEq, Repr

def Junction.name : Junction → String
  | and => "AND"
  | or => "OR"
  | not => "NOT"

namespace Leaf

def selectivity (leaf : Leaf) : Float := leaf.operator.selectivity leaf.value

def description (leaf : Leaf) : String :=
  s!"{leaf.field.name} {leaf.operator.name} {leaf.value.compact}"

def ofComparison (comparison : Comparison) (value : Json) : Except FilterError Leaf := do
  let test ← comparison.test value
  return ⟨comparison.field, comparison.operator, value, test.accepts⟩

def ofCriterion (matching : Matching) (criterion : Criterion) : Except FilterError Leaf := do
  ofComparison (← Comparison.named matching criterion.field criterion.operator) criterion.value

end Leaf

namespace Expression

/-- Combine parts. Only one part can be negated. -/
def combine (junction : Junction) (parts : List Expression) : Except FilterError Expression :=
  match junction with
  | .and => .ok (allOf false parts)
  | .or => .ok (anyOf parts)
  | .not =>
    match parts with
    | [part] => .ok (complement part)
    | parts => .error (.invalidStructure s!"NOT requires exactly one child, got {parts.length}")

def junction? : Expression → Option Junction
  | leaf _ => none
  | allOf _ _ => some .and
  | anyOf _ => some .or
  | complement _ => some .not

def parts : Expression → List Expression
  | leaf _ => []
  | allOf _ parts => parts
  | anyOf parts => parts
  | complement part => [part]

mutual

/-- The fraction of records that is expected to pass: parts are taken as independent. -/
def selectivity : Expression → Float
  | leaf condition => condition.selectivity
  | allOf _ [] => 1.0
  | allOf _ (part :: parts) => hits 1.0 (part :: parts)
  | anyOf [] => 1.0
  | anyOf (part :: parts) => 1.0 - misses 1.0 (part :: parts)
  | complement part => 1.0 - selectivity part

def hits (product : Float) : List Expression → Float
  | [] => product
  | part :: parts => hits (product * selectivity part) parts

def misses (product : Float) : List Expression → Float
  | [] => product
  | part :: parts => misses (product * (1.0 - selectivity part)) parts

end

mutual

def description : Expression → String
  | leaf condition => condition.description
  | allOf _ [] => "(all records)"
  | allOf _ (part :: parts) => "(" ++ description part ++ descriptions " AND " parts ++ ")"
  | anyOf [] => "(all records)"
  | anyOf (part :: parts) => "(" ++ description part ++ descriptions " OR " parts ++ ")"
  | complement part => "NOT (" ++ description part ++ ")"

def descriptions (sign : String) : List Expression → String
  | [] => ""
  | part :: parts => sign ++ description part ++ descriptions sign parts

end

mutual

def admits : Expression → Record → Bool
  | leaf condition, record => condition.accepts record
  | allOf _ parts, record => admitsAll parts record
  | anyOf [], _ => true
  | anyOf (part :: parts), record => admitsAny (part :: parts) record
  | complement part, record => !admits part record

def admitsAll : List Expression → Record → Bool
  | [], _ => true
  | part :: parts, record => admits part record && admitsAll parts record

def admitsAny : List Expression → Record → Bool
  | [], _ => false
  | part :: parts, record => admits part record || admitsAny parts record

end

def rank (expression : Expression) : Nat := Decimal.totalKey expression.selectivity

/-- The parts in the order in which they are run. -/
def executionOrder : Expression → List Expression
  | allOf false parts => Ranking.ranked rank parts
  | expression => expression.parts

theorem executionOrder_planned (parts : List Expression) :
    (allOf true parts).executionOrder = parts := rfl

end Expression

end LogSieve
