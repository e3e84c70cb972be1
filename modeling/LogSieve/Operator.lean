import LogSieve.Text.Blank
import LogSieve.Text.Case

/-! Comparison operators of criteria. -/

namespace LogSieve

open Text

inductive Operator where
  | equals
  | notEquals
  | contains
  | notContains
  | startsWith
  | endsWith
  | greaterThan
  | lessThan
  | greaterOrEqual
  | lessOrEqual
  | between
  | isIn
  | notIn
  | regex
  deriving DecidableEq, Repr

namespace Operator

def name : Operator → String
  | equals => "equals"
  | notEquals => "notEquals"
  | contains => "contains"
  | notContains => "notContains"
  | startsWith => "startsWith"
  | endsWith => "endsWith"
  | greaterThan => "greaterThan"
  | lessThan => "lessThan"
  | greaterOrEqual => "greaterOrEqual"
  | lessOrEqual => "lessOrEqual"
  | between => "between"
  | isIn => "in"
  | notIn => "notIn"
  | regex => "regex"

def ofText? (text : String) : Option Operator :=
  match lowercase (trimmed text) with
  | "equals" | "eq" | "=" | "==" => some equals
  | "notequals" | "ne" | "!=" => some notEquals
  | "contains" => some contains
  | "notcontains" => some notContains
  | "startswith" => some startsWith
  | "endswith" => some endsWith
  | "greaterthan" | "gt" | ">" => some greaterThan
  | "lessthan" | "lt" | "<" => some lessThan
  | "greaterorequal" | "ge" | ">=" => some greaterOrEqual
  | "lessorequal" | "le" | "<=" => some lessOrEqual
  | "between" => some between
  | "in" => some isIn
  | "notin" => some notIn
  | "regex" | "matches" | "~" => some regex
  | _ => none

def unknown (name : String) : String := s!"Unknown operator '{name}'"

/-- A negated operator selects the records that its operand does not describe. -/
def isNegated : Operator → Bool
  | notEquals | notContains | notIn => true
  | _ => false

def baseSelectivity : Operator → Float
  | equals => 0.05
  | notEquals => 0.95
  | contains => 0.35
  | notContains => 0.65
  | startsWith | endsWith => 0.3
  | greaterThan | lessThan | greaterOrEqual | lessOrEqual => 0.5
  | between => 0.2
  | isIn => 0.05
  | notIn => 0.95
  | regex => 0.3

end Operator

end LogSieve
