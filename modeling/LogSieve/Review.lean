import LogSieve.Comparison
import LogSieve.Criterion
import LogSieve.Findings

/-! Reviewing criteria before they are used. Every criterion is looked at, whatever is wrong with
the others; a message names the criterion by its position. -/

namespace LogSieve

open Text

namespace Criterion

def check (matching : Matching) (criterion : Criterion) : Except String Comparison :=
  if (trim criterion.field.toList).isEmpty then .error "field is required"
  else if (trim criterion.operator.toList).isEmpty then .error "operator is required"
  else if !Catalog.isField criterion.field then
    .error (s!"Unsupported field '{criterion.field}'. Available fields: " ++
      ", ".intercalate Catalog.fieldNames)
  else if !Catalog.isOperator criterion.field criterion.operator then
    .error (s!"Operator '{criterion.operator}' is not supported for field '{criterion.field}'. " ++
      "Supported operators: " ++ ", ".intercalate (Catalog.operatorNames criterion.field))
  else
    match Comparison.named matching criterion.field criterion.operator with
    | .error error => .error error.message
    | .ok comparison =>
      match comparison.test criterion.value with
      | .error error => .error error.message
      | .ok _ => .ok comparison

end Criterion

structure Reviewed where
  position : Nat
  field : Field
  operator : Operator
  value : Json

namespace Review

def advice (operator : Operator) (value : Json) : Option String :=
  let empty := value.string? == some ""
  match operator with
  | .contains | .startsWith | .endsWith =>
    if empty then some s!"empty value for '{operator.name}' matches every record" else none
  | .notContains =>
    if empty then some s!"empty value for '{operator.name}' matches no record" else none
  | .regex =>
    some "regular expressions are the most expensive filters and run after cheaper ones"
  | _ => none

def earlier? (seen : List Reviewed) (comparison : Comparison) (value : Json) : Option Nat :=
  (seen.find? fun other =>
    other.field = comparison.field && other.operator = comparison.operator &&
      Json.same other.value value).map (·.position)

def label (position : Nat) : String := s!"Criterion {position}"

/-- Review criteria that stand at a position and behind; `seen` holds those before, first one
first. -/
def reviewFrom (matching : Matching) (position : Nat) (seen : List Reviewed) :
    List Criterion → Findings
  | [] => .clean
  | criterion :: rest =>
    match criterion.check matching with
    | .error problem =>
      Findings.merge ⟨false, [s!"{label position}: {problem}"], []⟩
        (reviewFrom matching (position + 1) seen rest)
    | .ok comparison =>
      let value := criterion.value
      let note := (advice comparison.operator value).map fun text => s!"{label position}: {text}"
      let repetition := (earlier? seen comparison value).map fun first =>
        s!"{label position} duplicates criterion {first}"
      Findings.merge ⟨true, [], note.toList ++ repetition.toList⟩
        (reviewFrom matching (position + 1)
          (seen ++ [⟨position, comparison.field, comparison.operator, value⟩]) rest)

end Review

def review (matching : Matching) (criteria : List Criterion) : Findings :=
  Review.reviewFrom matching 1 [] criteria

end LogSieve
