import LogSieve.Field
import LogSieve.Operator
import LogSieve.Json.Writer

/-! Which operators go with which field, and what it costs to apply them. -/

namespace LogSieve

open Operator

namespace Field

def operators : Field → List Operator
  | timestamp => [equals, notEquals, greaterThan, lessThan, greaterOrEqual, lessOrEqual, between]
  | level => [equals, notEquals, isIn, notIn, greaterOrEqual, lessOrEqual]
  | message => [equals, notEquals, contains, notContains, startsWith, endsWith, regex]
  | node => [equals, notEquals, contains, notContains, startsWith, endsWith, isIn, notIn, regex]
  | processId =>
    [equals, notEquals, greaterThan, lessThan, greaterOrEqual, lessOrEqual, between, isIn, notIn]
  | username => [equals, notEquals, contains, notContains, startsWith, endsWith, isIn, notIn]

def supports (field : Field) (operator : Operator) : Bool := field.operators.contains operator

def descriptor (field : Field) : Json :=
  .object [("name", .string field.name), ("kind", .string field.kind.name),
    ("description", .string field.describe),
    ("operators", .array (field.operators.map fun operator => .string operator.name))]

end Field

namespace Catalog

def resolve (field operator : String) : Except FilterError (Field × Operator) := do
  let found ← Field.parse field
  match Operator.ofText? operator with
  | some op =>
    if found.supports op then .ok (found, op) else .error (.unsupportedOperator found.name operator)
  | none => .error (.unsupportedOperator found.name operator)

/-- The weight of one comparison: patterns are the most expensive, numbers and levels the cheapest,
and long texts cost more to search than short ones. -/
def cost (field : Field) : Operator → Float
  | regex => 0.8
  | op =>
    match field with
    | .level | .processId | .timestamp => if op = between then 0.15 else 0.1
    | .message | .node | .username =>
      match op with
      | equals | notEquals => 0.15
      | isIn | notIn | startsWith | endsWith => 0.2
      | contains | notContains => if field = .message then 0.4 else 0.3
      | _ => 0.2

def fieldNames : List String := Field.all.map Field.name

def operatorNames (field : String) : List String :=
  match Field.ofText? field with
  | some found => found.operators.map Operator.name
  | none => []

def isField (field : String) : Bool := (Field.ofText? field).isSome

def isOperator (field operator : String) : Bool := (resolve field operator).isOk

theorem supports_of_resolve {field operator : String} {found : Field} {op : Operator}
    (h : resolve field operator = .ok (found, op)) : found.supports op = true := by
  unfold resolve at h
  cases hf : Field.parse field with
  | error e => rw [hf] at h; cases h
  | ok f =>
    rw [hf] at h
    simp only [bind, Except.bind] at h
    split at h
    · split at h
      · next hs => cases h; exact hs
      · cases h
    · cases h

end Catalog

end LogSieve
