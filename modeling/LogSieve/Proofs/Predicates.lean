import LogSieve.Comparison
import LogSieve.Proofs.Traversal

/-! Predicates of records: what a field, an operator and an operand come to. The operators that
compare whole values treat all fields alike: the values of a field form a scale, and operands are
read by one function on every scale, so a law of scales is a law of fields. The operators that look
for a part of a text are for texts alone. -/

namespace LogSieve

/-- The record has no value in the field. A level that is no known one is none. -/
def Record.Lacks (record : Record) : Field → Prop
  | .level => record.severity = none
  | .processId => record.processId = none
  | .username => record.username = none
  | .timestamp | .message | .node => False

namespace Operator

def comparesWhole : Operator → Bool
  | contains | notContains | startsWith | endsWith | regex => false
  | _ => true

def takesOne : Operator → Bool
  | equals | notEquals | greaterThan | lessThan | greaterOrEqual | lessOrEqual => true
  | _ => false

def takesText : Operator → Bool
  | equals | notEquals | contains | notContains | startsWith | endsWith => true
  | _ => false

theorem kind_eq_text_of_contains {field : Field} (supported : field.supports contains = true) :
    field.kind = .text := by
  cases field <;> first | rfl | cases supported

end Operator

/-! Scales -/

/-- The values of a field: how they are written, which of them stand below which, and what a record
has there. -/
structure Scale where
  Value : Type
  [decEq : DecidableEq Value]
  read : Json → Except String Value
  less : Value → Value → Bool
  actual : Record → Option Value

attribute [instance] Scale.decEq

namespace Field

open Comparison in
def textScale (field : Field) (matching : Matching) : Scale :=
  ⟨String, readMember matching.caseSensitive, fun _ _ => false,
    fun record => (record.text? field).map (comparable matching.caseSensitive)⟩

open Comparison in
def scale (matching : Matching) : Field → Scale
  | timestamp => ⟨Time.Instant, readInstant, Time.Instant.before,
      fun record => some record.timestamp.instant⟩
  | level => ⟨Level, readLevel, Level.before, Record.severity⟩
  | processId => ⟨Nat, readProcessId, fun a b => decide (a < b), Record.processId⟩
  | field => field.textScale matching

theorem actual_eq_none {matching : Matching} {field : Field} {record : Record} :
    (field.scale matching).actual record = none ↔ record.Lacks field := by
  cases field <;> simp [scale, textScale, Record.Lacks, Record.text?]

end Field

/-- Compare what a record has with an operand. A record that has nothing passes the negated
operators. -/
def Scale.judge (scale : Scale) (operator : Operator) (operand : Operand scale.Value)
    (record : Record) : Bool :=
  match scale.actual record with
  | some actual => operand.accepts scale.less operator actual
  | none => operator.isNegated

namespace Comparison

/-- The predicate that an operand makes of a field and an operator, if these go together and the
operand is accepted. -/
def predicate? (matching : Matching) (field : Field) (operator : Operator) (value : Json) :
    Option (Record → Bool) := do
  let comparison ← (make matching field operator).toOption
  let test ← (comparison.test value).toOption
  return test.accepts

variable {matching : Matching} {field : Field} {operator : Operator} {value : Json}

theorem toOption_test (comparison : Comparison) :
    (comparison.test value).toOption = (comparison.readTest value).toOption := by
  unfold test
  cases comparison.readTest value <;> rfl

theorem predicate?_of_supported (supported : field.supports operator = true) :
    predicate? matching field operator value =
      (readTest ⟨field, operator, matching, supported⟩ value).toOption.map Test.accepts := by
  rw [← toOption_test, Option.map_eq_bind]
  simp only [predicate?, make, supported, ↓reduceDIte]
  rfl

theorem predicate?_of_not_supported (unsupported : field.supports operator = false) :
    predicate? matching field operator value = none := by
  simp [predicate?, make, unsupported, Except.toOption]

theorem supports_of_predicate? {passes : Record → Bool}
    (made : predicate? matching field operator value = some passes) :
    field.supports operator = true := by
  by_contra unsupported
  rw [predicate?_of_not_supported (eq_false_of_ne_true unsupported)] at made
  cases made

/-! Operands -/

theorem readOperand_single {less : α → α → Bool} {read : Json → Except String α}
    (one : operator.takesOne = true) :
    readOperand less read operator value = (read value).map Operand.single := by
  have single : (do return Operand.single (← read value)) = (read value).map Operand.single := by
    cases read value <;> rfl
  cases operator <;> first | exact single | cases one

def readMembers (read : Json → Except String α) (value : Json) : Except String (List α) :=
  readItems value >>= List.mapM read

theorem readMembers_map (read : Json → Except String α) (make : List α → β) :
    (do let items ← readItems value; return make (← items.mapM read)) =
      (readMembers read value).map make := by
  rw [readMembers]
  cases readItems value with
  | error => rfl
  | ok items =>
    change (do return make (← items.mapM read)) = (items.mapM read).map make
    cases items.mapM read <;> rfl

theorem readOperand_set {less : α → α → Bool} {read : Json → Except String α}
    (member : operator = .isIn ∨ operator = .notIn) :
    readOperand less read operator value = (readMembers read value).map Operand.set := by
  obtain rfl | rfl := member <;> exact readMembers_map read Operand.set

theorem readText_oneOf (member : operator = .isIn ∨ operator = .notIn) :
    readText field operator matching value =
      (readMembers (readMember matching.caseSensitive) value).map
        (.oneOf field operator matching.caseSensitive) := by
  obtain rfl | rfl := member <;> exact readMembers_map _ _

/-! Texts -/

theorem readText_literal (one : operator.takesText = true) :
    (readText field operator matching value).toOption = value.string?.map fun text =>
      .literal field operator matching.caseSensitive (comparable matching.caseSensitive text) := by
  cases operator <;> first | (cases value <;> rfl) | cases one

theorem predicate?_text (text : field.kind = .text) (one : operator.takesText = true)
    (supported : field.supports operator = true) :
    predicate? matching field operator value = value.string?.map fun sought =>
      (Test.literal field operator matching.caseSensitive
        (comparable matching.caseSensitive sought)).accepts := by
  have read : readTest ⟨field, operator, matching, supported⟩ value =
      readText field operator matching value := by
    cases field <;> first | rfl | cases text
  rw [predicate?_of_supported supported, read, readText_literal one, Option.map_map]
  rfl

theorem accepts_single (equality : operator = .equals ∨ operator = .notEquals) (sought : String) :
    (Test.literal field operator matching.caseSensitive sought).accepts =
      (field.textScale matching).judge operator (.single sought) := by
  funext record
  simp only [Test.accepts, Scale.judge, Field.textScale]
  cases record.text? field with
  | none => rfl
  | some actual =>
    obtain rfl | rfl := equality
    · rfl
    · simp only [acceptsText, Operand.accepts, bne, ne_eq, decide_not]
      rfl

theorem accepts_set (texts : List String) :
    (Test.oneOf field operator matching.caseSensitive texts).accepts =
      (field.textScale matching).judge operator (.set texts) := by
  funext record
  simp only [Test.accepts, Scale.judge, Field.textScale]
  cases record.text? field with
  | none => rfl
  | some actual =>
    cases operator with
    | notIn =>
      simp only [acceptsAny, Operand.accepts, bne, ne_eq, decide_not]
      rfl
    | _ => rfl

theorem readText_whole (text : field.kind = .text) (whole : operator.comparesWhole = true)
    (supported : field.supports operator = true) :
    (readText field operator matching value).toOption.map Test.accepts =
      (readOperand (field.textScale matching).less (field.textScale matching).read operator
        value).toOption.map ((field.textScale matching).judge operator) := by
  cases operator with
  | equals | notEquals =>
    cases value with
    | string sought =>
      refine congrArg some (accepts_single ?_ _)
      simp
    | _ => rfl
  | isIn | notIn =>
    rw [readText_oneOf (by simp), readOperand_set (by simp), toOption_map, toOption_map,
      Option.map_map, Option.map_map]
    exact congrArg (Option.map · _) (funext fun texts => accepts_set texts)
  | between | greaterThan | lessThan | greaterOrEqual | lessOrEqual =>
    exact absurd supported (by revert text; cases field <;> decide)
  | _ => cases whole

/-! Whole values -/

theorem predicate?_whole (whole : operator.comparesWhole = true)
    (supported : field.supports operator = true) :
    let scale := field.scale matching
    predicate? matching field operator value =
      (readOperand scale.less scale.read operator value).toOption.map (scale.judge operator) := by
  intro scale
  rw [predicate?_of_supported supported]
  cases field with
  | level =>
    rw [readTest, toOption_map, Option.map_map]
    refine congrArg (Option.map · _) (funext fun operand => funext fun record => ?_)
    simp only [Function.comp_apply, Test.accepts, Scale.judge, scale, Field.scale]
    cases record.severity <;> rfl
  | processId =>
    rw [readTest, toOption_map, Option.map_map]
    refine congrArg (Option.map · _) (funext fun operand => funext fun record => ?_)
    simp only [Function.comp_apply, Test.accepts, Scale.judge, scale, Field.scale]
    cases record.processId <;> rfl
  | timestamp =>
    rw [readTest, toOption_map, Option.map_map]
    rfl
  | message | node | username => exact readText_whole rfl whole supported

theorem predicate?_one (one : operator.takesOne = true)
    (supported : field.supports operator = true) :
    predicate? matching field operator value =
      ((field.scale matching).read value).toOption.map fun operand =>
        (field.scale matching).judge operator (.single operand) := by
  have whole : operator.comparesWhole = true := by revert one; cases operator <;> decide
  rw [predicate?_whole whole supported, readOperand_single one, toOption_map, Option.map_map]
  rfl

theorem predicate?_members (member : operator = .isIn ∨ operator = .notIn)
    (supported : field.supports operator = true) :
    predicate? matching field operator value =
      (readMembers (field.scale matching).read value).toOption.map fun operands =>
        (field.scale matching).judge operator (.set operands) := by
  have whole : operator.comparesWhole = true := by obtain rfl | rfl := member <;> rfl
  rw [predicate?_whole whole supported, readOperand_set member, toOption_map, Option.map_map]
  rfl

end Comparison

end LogSieve
