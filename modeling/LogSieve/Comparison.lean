import LogSieve.Catalog
import LogSieve.Matching
import LogSieve.Test

/-! Comparisons: an operator that goes with a field. A comparison turns an operand as somebody
wrote it into a test, or says what is wrong with the operand. -/

namespace LogSieve

open Text

structure Comparison where
  field : Field
  operator : Operator
  matching : Matching
  supported : field.supports operator = true

namespace Comparison

def make (matching : Matching) (field : Field) (operator : Operator) :
    Except FilterError Comparison :=
  if h : field.supports operator = true then .ok ⟨field, operator, matching, h⟩
  else .error (.unsupportedOperator field.name operator.name)

def ofTextField (matching : Matching) (field : Field) (operator : Operator) :
    Except FilterError Comparison :=
  if field.kind = .text then make matching field operator
  else .error (.unsupportedField field.name)

def named (matching : Matching) (field operator : String) : Except FilterError Comparison := do
  let (field, operator) ← Catalog.resolve field operator
  make matching field operator

def readLevel : Json → Except String Level
  | .string text => Level.parse text
  | _ => .error "expected a level name"

def readNatural (text : List Char) : Option Nat :=
  let digits := match text with
    | '+' :: rest => rest
    | text => text
  if digits.isEmpty || !digits.all Char.isDigit then none
  else some (digits.foldl (fun n c => 10 * n + (c.toNat - 48)) 0)

def processIdLimit : Nat := 0x100000000

def processId? : Json → Option Nat
  | .integer n => if 0 ≤ n then some n.toNat else none
  | .string text => readNatural (trim text.toList)
  | _ => none

def readProcessId (value : Json) : Except String Nat :=
  match processId? value with
  | some id =>
    if id < processIdLimit then .ok id else .error s!"{value.compact} is not a valid process id"
  | none => .error s!"{value.compact} is not a valid process id"

def readInstant : Json → Except String Time.Instant
  | .string text =>
    match Time.instant? (trimmed text) with
    | some instant => .ok instant
    | none => .error s!"'{trimmed text}' is not a recognized date/time"
  | _ => .error "expected a date/time string"

def readItems : Json → Except String (List Json)
  | .array [] => .error "expected at least one value"
  | .array items => .ok items
  | _ => .error "expected an array of values"

def readOperand (less : α → α → Bool) (read : Json → Except String α) (operator : Operator)
    (value : Json) : Except String (Operand α) :=
  match operator with
  | .between =>
    match value with
    | .array [low, high] => do
      let low ← read low
      let high ← read high
      if less high low then .error "lower bound must not exceed upper bound"
      else .ok (.range low high)
    | _ => .error "expected a two-element array [from, to]"
  | .isIn | .notIn => do
    let items ← readItems value
    return .set (← items.mapM read)
  | _ => do return .single (← read value)

def readMember (caseSensitive : Bool) : Json → Except String String
  | .string text => .ok (comparable caseSensitive text)
  | value => .error s!"expected a string, got {value.compact}"

/-- The test of a text field. A pattern minds letter case on its own. -/
def readText (field : Field) (operator : Operator) (matching : Matching) (value : Json) :
    Except String Test :=
  let caseSensitive := matching.caseSensitive
  match operator with
  | .isIn | .notIn => do
    let items ← readItems value
    return .oneOf field operator caseSensitive (← items.mapM (readMember caseSensitive))
  | .regex =>
    match value with
    | .string text =>
      match matching.patterns.make (!caseSensitive) text with
      | .ok finds => .ok (.pattern field finds)
      | .error reason => .error s!"invalid regular expression: {reason}"
    | _ => .error "expected a regular expression string"
  | _ =>
    match value with
    | .string text => .ok (.literal field operator caseSensitive (comparable caseSensitive text))
    | _ => .error "expected a string"

def readTest (comparison : Comparison) (value : Json) : Except String Test :=
  let operator := comparison.operator
  match comparison.field with
  | .level => (readOperand Level.before readLevel operator value).map (.level operator)
  | .processId =>
    (readOperand (fun a b => decide (a < b)) readProcessId operator value).map (.processId operator)
  | .timestamp =>
    (readOperand Time.Instant.before readInstant operator value).map (.timestamp operator)
  | .message => readText .message operator comparison.matching value
  | .node => readText .node operator comparison.matching value
  | .username => readText .username operator comparison.matching value

def test (comparison : Comparison) (value : Json) : Except FilterError Test :=
  match comparison.readTest value with
  | .ok test => .ok test
  | .error reason =>
    .error (.invalidValue comparison.field.name comparison.operator.name value.compact reason)

def admits (comparison : Comparison) (value : Json) : Bool := (comparison.test value).isOk

end Comparison

/-- The fraction of records that is expected to pass an operator with this operand: membership grows
with the number of values. -/
def Operator.selectivity (operator : Operator) (value : Json) : Float :=
  let size : Float := Float.ofNat (max ((value.items?.map List.length).getD 1) 1)
  let estimate : Float := match operator with
    | isIn => isIn.baseSelectivity * size
    | notIn => 1.0 - isIn.baseSelectivity * size
    | operator => operator.baseSelectivity
  if estimate < 0.0 then 0.0 else if 1.0 < estimate then 1.0 else estimate

def Comparison.selectivity (comparison : Comparison) (value : Json) : Float :=
  comparison.operator.selectivity value

def Comparison.cost (comparison : Comparison) : Float :=
  Catalog.cost comparison.field comparison.operator

end LogSieve
