import LogSieve.Text.Blank
import LogSieve.Json.Decoder
import LogSieve.Json.Writer

/-! Criteria: a field, an operator and an operand, as somebody wrote them. The term of a criterion
is `field:operator:value`; only its first two colons divide it, so a value keeps its own. -/

namespace LogSieve

open Text

structure Criterion where
  field : String
  operator : String
  value : Json

inductive TermError where
  | badShape (term : String)
  | emptyPart (part term : String)
  deriving DecidableEq, Repr

namespace TermError

def message : TermError → String
  | badShape term => s!"Invalid criterion '{term}'. Expected 'field:operator:value' format"
  | emptyPart part term => s!"Empty {part} in criterion '{term}'"

end TermError

namespace Criterion

def cutColon : List Char → List Char × Option (List Char)
  | [] => ([], none)
  | c :: rest =>
    if c = ':' then ([], some rest)
    else
      let (front, back) := cutColon rest
      (c :: front, back)

def parts? (term : List Char) : Option (List Char × List Char × List Char) :=
  match cutColon term with
  | (field, some rest) =>
    match cutColon rest with
    | (operator, some value) => some (field, operator, value)
    | _ => none
  | _ => none

/-- A value that begins like a list, an object or a quoted text is read as such if it can be; any
other value is a plain text. -/
def operand (value : List Char) : Json :=
  let plain := Json.string (String.ofList value)
  match value with
  | '[' :: _ | '{' :: _ | '"' :: _ =>
    match Json.parse (String.ofList value) with
    | .ok found => found
    | .error _ => plain
  | _ => plain

def ofTerm (term : String) : Except TermError Criterion :=
  match parts? term.toList with
  | none => .error (.badShape term)
  | some (field, operator, value) =>
    let field := trim field
    let operator := trim operator
    let value := trim value
    if field.isEmpty then .error (.emptyPart "field" term)
    else if operator.isEmpty then .error (.emptyPart "operator" term)
    else if value.isEmpty then .error (.emptyPart "value" term)
    else .ok ⟨String.ofList field, String.ofList operator, operand value⟩

/-- The operand as it stands in a term: a text without quotes, anything else on one line. -/
def operandText : Json → String
  | .string text => text
  | value => value.compact

def term (criterion : Criterion) : String :=
  criterion.field ++ ":" ++ criterion.operator ++ ":" ++ operandText criterion.value

def toJson (criterion : Criterion) : Json :=
  .object [("field", .string criterion.field), ("operator", .string criterion.operator),
    ("value", criterion.value)]

structure Draft where
  field : Option String
  operator : Option String
  value : Option Json

/-- A criterion in a document: an object or a list of its three parts. -/
def form : Json.Form Draft Criterion where
  title := "struct FilterCriterion"
  members := [
    { name := "field", optional := false, filled := fun draft => draft.field.isSome,
      fill := fun _ draft text => do
        let (field, rest) ← Json.anyText text
        return ({ draft with field := some field }, rest) },
    { name := "operator", optional := false, filled := fun draft => draft.operator.isSome,
      fill := fun _ draft text => do
        let (operator, rest) ← Json.anyText text
        return ({ draft with operator := some operator }, rest) },
    { name := "value", optional := false, filled := fun draft => draft.value.isSome,
      fill := fun brackets draft text => do
        let (value, rest) ← Json.value brackets text
        return ({ draft with value := some value }, rest) }]
  blank := ⟨none, none, none⟩
  finish draft := do
    return ⟨← Json.required "field" draft.field, ← Json.required "operator" draft.operator,
      ← Json.required "value" draft.value⟩

def ofText (text : String) : Except Json.Trouble Criterion := form.decode text

end Criterion

end LogSieve
