import LogSieve.Record
import LogSieve.Operator
import LogSieve.Field

/-! Tests of records. A test is what an operator and an operand come to: it looks at one field of a
record and says whether the record passes. A record that lacks the field passes the negated
operators only. -/

namespace LogSieve

open Text

/-- The operand of an ordered field: one value, both ends of a range, or several values. -/
inductive Operand (α : Type) where
  | single (value : α)
  | range (low high : α)
  | set (values : List α)
  deriving DecidableEq, Repr

def Operand.accepts [DecidableEq α] (less : α → α → Bool) (operator : Operator) (actual : α) :
    Operand α → Bool
  | single value =>
    match operator with
    | .equals => decide (actual = value)
    | .notEquals => decide (actual ≠ value)
    | .greaterThan => less value actual
    | .lessThan => less actual value
    | .greaterOrEqual => !less actual value
    | .lessOrEqual => !less value actual
    | _ => false
  | range low high =>
    match operator with
    | .between => !less actual low && !less high actual
    | _ => false
  | set values =>
    match operator with
    | .isIn => values.any fun value => decide (value = actual)
    | .notIn => values.all fun value => decide (value ≠ actual)
    | _ => false

def includes (part : List Char) : List Char → Bool
  | [] => part.isEmpty
  | c :: rest => part.isPrefixOf (c :: rest) || includes part rest

theorem includes_nil_left (text : List Char) : includes [] text = true := by
  cases text <;> rfl

def acceptsText (operator : Operator) (text : String) (actual : String) : Bool :=
  match operator with
  | .equals => actual == text
  | .notEquals => actual != text
  | .contains => includes text.toList actual.toList
  | .notContains => !includes text.toList actual.toList
  | .startsWith => text.toList.isPrefixOf actual.toList
  | .endsWith => text.toList.isSuffixOf actual.toList
  | _ => false

def acceptsAny (operator : Operator) (texts : List String) (actual : String) : Bool :=
  match operator with
  | .isIn => texts.any fun text => text == actual
  | .notIn => texts.all fun text => text != actual
  | _ => false

def comparable (caseSensitive : Bool) (text : String) : String :=
  if caseSensitive then text else lowercase text

def Record.text? (record : Record) : Field → Option String
  | .message => some record.message
  | .node => some record.node
  | .username => record.username
  | _ => none

inductive Test where
  | level (operator : Operator) (operand : Operand Level)
  | processId (operator : Operator) (operand : Operand Nat)
  | timestamp (operator : Operator) (operand : Operand Time.Instant)
  | literal (field : Field) (operator : Operator) (caseSensitive : Bool) (text : String)
  | oneOf (field : Field) (operator : Operator) (caseSensitive : Bool) (texts : List String)
  | pattern (field : Field) (finds : String → Bool)

def Test.accepts (test : Test) (record : Record) : Bool :=
  match test with
  | level operator operand =>
    match record.severity with
    | some severity => operand.accepts Level.before operator severity
    | none => operator.isNegated
  | processId operator operand =>
    match record.processId with
    | some id => operand.accepts (fun a b => decide (a < b)) operator id
    | none => operator.isNegated
  | timestamp operator operand =>
    operand.accepts Time.Instant.before operator record.timestamp.instant
  | literal field operator caseSensitive text =>
    match record.text? field with
    | some actual => acceptsText operator text (comparable caseSensitive actual)
    | none => operator.isNegated
  | oneOf field operator caseSensitive texts =>
    match record.text? field with
    | some actual => acceptsAny operator texts (comparable caseSensitive actual)
    | none => operator.isNegated
  | pattern field finds =>
    match record.text? field with
    | some actual => finds actual
    | none => false

end LogSieve
