import LogSieve.Proofs.Predicates

/-! Laws of the operators. The negated operators pass what the others leave, lists of values are
any or all of their members, a range is its two ends, and where the values are ordered each of two
values is below, at or above the other. -/

namespace LogSieve

namespace Operator

def negation? : Operator → Option Operator
  | equals => some notEquals
  | contains => some notContains
  | isIn => some notIn
  | _ => none

theorem supports_negation {positive negative : Operator} (field : Field)
    (negation : positive.negation? = some negative) :
    field.supports negative = field.supports positive := by
  cases positive <;> cases negation <;> cases field <;> rfl

end Operator

namespace Scale

variable {scale : Scale} {record : Record}

theorem judge_notEquals (value : scale.Value) :
    scale.judge .notEquals (.single value) record =
      !scale.judge .equals (.single value) record := by
  unfold judge
  cases scale.actual record with
  | none => rfl
  | some actual => exact decide_not

theorem judge_notIn (values : List scale.Value) :
    scale.judge .notIn (.set values) record = !scale.judge .isIn (.set values) record := by
  unfold judge
  cases scale.actual record with
  | none => rfl
  | some actual => simp [Operand.accepts, List.not_any_eq_all_not]

theorem judge_isIn (values : List scale.Value) :
    scale.judge .isIn (.set values) record =
      values.any fun value => scale.judge .equals (.single value) record := by
  unfold judge
  cases scale.actual record with
  | none => simp [Operator.isNegated]
  | some actual => simp [Operand.accepts, eq_comm]

theorem judge_notIn_all (values : List scale.Value) :
    scale.judge .notIn (.set values) record =
      values.all fun value => scale.judge .notEquals (.single value) record := by
  rw [judge_notIn, judge_isIn, List.not_any_eq_all_not]
  simp only [judge_notEquals]

theorem judge_between (low high : scale.Value) :
    scale.judge .between (.range low high) record =
      (scale.judge .greaterOrEqual (.single low) record &&
        scale.judge .lessOrEqual (.single high) record) := by
  unfold judge
  cases scale.actual record <;> rfl

/-! Order -/

def IsOrdered (scale : Scale) : Prop :=
  ∀ a b, [scale.less a b, decide (a = b), scale.less b a].count true = 1

theorem not_eq_or_of_count : ∀ {below same above : Bool}, [below, same, above].count true = 1 →
    (!below) = (above || same) ∧ (!above) = (below || same) := by
  decide

section Ordered

variable (ordered : scale.IsOrdered)
include ordered

theorem judge_greaterOrEqual (value : scale.Value) :
    scale.judge .greaterOrEqual (.single value) record =
      (scale.judge .greaterThan (.single value) record ||
        scale.judge .equals (.single value) record) := by
  unfold judge
  cases scale.actual record with
  | none => rfl
  | some actual => exact (not_eq_or_of_count (ordered actual value)).1

theorem judge_lessOrEqual (value : scale.Value) :
    scale.judge .lessOrEqual (.single value) record =
      (scale.judge .lessThan (.single value) record ||
        scale.judge .equals (.single value) record) := by
  unfold judge
  cases scale.actual record with
  | none => rfl
  | some actual => exact (not_eq_or_of_count (ordered actual value)).2

theorem judge_count (value : scale.Value) {actual : scale.Value}
    (known : scale.actual record = some actual) :
    [scale.judge .lessThan (.single value) record, scale.judge .equals (.single value) record,
      scale.judge .greaterThan (.single value) record].count true = 1 := by
  simp only [judge, known]
  exact ordered actual value

end Ordered

def Exceeds (scale : Scale) (low high : Json) : Prop :=
  ∃ a b, scale.read low = .ok a ∧ scale.read high = .ok b ∧ scale.less b a = true

end Scale

theorem Time.Instant.before_asymm {a b : Time.Instant} (before : a.before b = true) :
    b.before a = false := by
  by_contra after
  have same := before_trans before (eq_true_of_ne_false after)
  rw [before_irrefl] at same
  cases same

theorem Time.Instant.ne_of_before {a b : Time.Instant} (before : a.before b = true) : a ≠ b := by
  rintro rfl
  rw [before_irrefl] at before
  cases before

open Time.Instant in
theorem Field.scale_isOrdered {field : Field} {matching : Matching}
    (ordered : field = .timestamp ∨ field = .processId) : (field.scale matching).IsOrdered := by
  obtain rfl | rfl := ordered
  · intro (a : Time.Instant) (b : Time.Instant)
    change [a.before b, decide (a = b), b.before a].count true = 1
    obtain below | same | above := before_or_eq_or_after a b
    · simp [below, ne_of_before below, before_asymm below]
    · simp [same, before_irrefl]
    · simp [above, (ne_of_before above).symm, before_asymm above]
  · intro (a : Nat) (b : Nat)
    change [decide (a < b), decide (a = b), decide (b < a)].count true = 1
    obtain below | same | above := Nat.lt_trichotomy a b
    · simp [below, Nat.ne_of_lt below, Nat.lt_asymm below]
    · simp [same]
    · simp [above, Nat.ne_of_gt above, Nat.lt_asymm above]

namespace Comparison

variable {matching : Matching} {field : Field} {operator : Operator} {value : Json}
  {passes : Record → Bool} {record : Record}

theorem accepts_notContains (text : String) (record : Record) :
    (Test.literal field .notContains matching.caseSensitive text).accepts record =
      !(Test.literal field .contains matching.caseSensitive text).accepts record := by
  simp only [Test.accepts]
  cases record.text? field <;> rfl

theorem predicate?_of_negation {positive negative : Operator}
    (negation : positive.negation? = some negative) :
    predicate? matching field negative value =
      (predicate? matching field positive value).map fun passes record => !passes record := by
  have both := Operator.supports_negation field negation
  cases supported : field.supports positive with
  | false =>
    rw [predicate?_of_not_supported supported, predicate?_of_not_supported (both.trans supported)]
    rfl
  | true =>
    have also := both.trans supported
    cases positive with
    | equals =>
      cases negation
      rw [predicate?_one rfl also, predicate?_one rfl supported, Option.map_map]
      exact congrArg (Option.map · _) (funext fun _ => funext fun _ => Scale.judge_notEquals _)
    | contains =>
      cases negation
      have text : field.kind = .text := Operator.kind_eq_text_of_contains supported
      rw [predicate?_text text rfl also, predicate?_text text rfl supported, Option.map_map]
      exact congrArg (Option.map · _) (funext fun _ => funext fun _ => accepts_notContains _ _)
    | isIn =>
      cases negation
      rw [predicate?_members (.inr rfl) also, predicate?_members (.inl rfl) supported,
        Option.map_map]
      exact congrArg (Option.map · _) (funext fun _ => funext fun _ => Scale.judge_notIn _)
    | _ => cases negation

theorem predicate?_whole_of_lacks (whole : operator.comparesWhole = true)
    (made : predicate? matching field operator value = some passes)
    (lacks : record.Lacks field) : passes record = operator.isNegated := by
  rw [predicate?_whole whole (supports_of_predicate? made)] at made
  obtain ⟨operand, -, rfl⟩ := Option.map_eq_some_iff.mp made
  rw [Scale.judge, Field.actual_eq_none.mpr lacks]

theorem predicate?_of_lacks (made : predicate? matching field operator value = some passes)
    (lacks : record.Lacks field) : passes record = operator.isNegated := by
  have supported := supports_of_predicate? made
  cases field with
  | timestamp | message | node => exact lacks.elim
  | level | processId =>
    refine predicate?_whole_of_lacks ?_ made lacks
    revert supported
    cases operator <;> decide
  | username =>
    cases whole : operator.comparesWhole with
    | true => exact predicate?_whole_of_lacks whole made lacks
    | false =>
      -- There are no patterns for usernames, so this is one of the operators that take a text.
      have text : operator.takesText = true := by
        revert whole supported
        cases operator <;> decide
      rw [predicate?_text rfl text supported] at made
      obtain ⟨sought, -, rfl⟩ := Option.map_eq_some_iff.mp made
      have absent : record.text? .username = none := lacks
      rw [Test.accepts, absent]

/-- A negated operator takes the operands of the operator that it negates and passes the records
that this one leaves; a record that lacks the field passes the negated operators and no other. -/
theorem negation_complements (matching : Matching) (field : Field) :
    (∀ positive negative : Operator, positive.negation? = some negative →
      field.supports negative = field.supports positive ∧
      ∀ value, predicate? matching field negative value =
        (predicate? matching field positive value).map fun passes record => !passes record) ∧
    ∀ operator value passes, predicate? matching field operator value = some passes →
      ∀ record : Record, record.Lacks field → passes record = operator.isNegated := by
  constructor
  · intro positive negative negation
    exact ⟨Operator.supports_negation field negation, fun value => predicate?_of_negation negation⟩
  · intro operator value passes made record lacks
    exact predicate?_of_lacks made lacks

/-- No user has no part of a name, so the record passes the negated operator. -/
theorem negation_complements_username :
    let record : Record := ⟨"app.log", 1, .utc ⟨0, 0⟩, "info", "", "", none, none⟩
    ∃ passes, predicate? ⟨true⟩ .username .contains (.string "root") = some passes ∧
      predicate? ⟨true⟩ .username .notContains (.string "root") =
        some (fun record => !passes record) ∧
      passes record = false := by
  intro record
  obtain ⟨complement, missing⟩ := negation_complements ⟨true⟩ .username
  have made : predicate? ⟨true⟩ .username .contains (.string "root") =
      some (Test.literal .username .contains true "root").accepts := rfl
  have lacks : record.Lacks .username := rfl
  refine ⟨_, made, ?_, missing .contains (.string "root") _ made record lacks⟩
  rw [(complement .contains .notContains rfl).2 (.string "root"), made]
  rfl

/-! Operands with several values -/

theorem readMembers_array {read : Json → Except String α} {items : List Json}
    (inhabited : items ≠ []) : readMembers read (.array items) = items.mapM read := by
  cases items with
  | nil => exact absurd rfl inhabited
  | cons => rfl

/-- An operator that takes a list makes of it what another operator makes of its members, if it does
so with the values that these are read as. -/
theorem predicate?_members_iff {one : Operator} {combine : List (Record → Bool) → Record → Bool}
    (member : operator = .isIn ∨ operator = .notIn) (supported : field.supports operator = true)
    (single : one.takesOne = true) (also : field.supports one = true)
    (law : ∀ operands : List (field.scale matching).Value,
      (field.scale matching).judge operator (.set operands) =
        combine (operands.map fun operand =>
          (field.scale matching).judge one (.single operand))) :
    predicate? matching field operator value = some passes ↔
      ∃ items each, value = .array items ∧ items ≠ [] ∧
        items.mapM (predicate? matching field one) = some each ∧ passes = combine each := by
  have compiled (items : List Json) : items.mapM (predicate? matching field one) =
      (items.mapM (field.scale matching).read).toOption.map (List.map fun operand =>
        (field.scale matching).judge one (.single operand)) := by
    rw [← mapM_toOption_map]
    exact congrArg (items.mapM ·) (funext fun _ => predicate?_one single also)
  rw [predicate?_members member supported]
  constructor
  · intro made
    obtain ⟨operands, read, rfl⟩ := Option.map_eq_some_iff.mp made
    match value, read with
    | .array (item :: rest), read =>
      refine ⟨item :: rest, _, rfl, List.cons_ne_nil item rest, ?_, law operands⟩
      rw [compiled, ← readMembers_array (List.cons_ne_nil item rest), read]
      rfl
  · rintro ⟨items, each, rfl, inhabited, same, rfl⟩
    rw [compiled] at same
    obtain ⟨operands, read, rfl⟩ := Option.map_eq_some_iff.mp same
    rw [readMembers_array inhabited, read, ← law]
    rfl

theorem supports_of_isIn (supported : field.supports .isIn = true) :
    field.supports .equals = true ∧ field.supports .notEquals = true ∧
      field.supports .notIn = true := by
  revert supported
  cases field <;> decide

theorem predicate?_isIn_iff (supported : field.supports .isIn = true) :
    predicate? matching field .isIn value = some passes ↔
      ∃ items each, value = .array items ∧ items ≠ [] ∧
        items.mapM (predicate? matching field .equals) = some each ∧
        passes = fun record => each.any fun one => one record := by
  refine predicate?_members_iff (.inl rfl) supported rfl (supports_of_isIn supported).1 ?_
  intro operands
  funext record
  rw [Scale.judge_isIn, List.any_map, Function.comp_def]

theorem predicate?_notIn_iff (supported : field.supports .isIn = true) :
    predicate? matching field .notIn value = some passes ↔
      ∃ items each, value = .array items ∧ items ≠ [] ∧
        items.mapM (predicate? matching field .notEquals) = some each ∧
        passes = fun record => each.all fun one => one record := by
  obtain ⟨-, different, outside⟩ := supports_of_isIn supported
  refine predicate?_members_iff (.inr rfl) outside rfl different ?_
  intro operands
  funext record
  rw [Scale.judge_notIn_all, List.all_map, Function.comp_def]

theorem readOperand_between {less : α → α → Bool} {read : Json → Except String α}
    {operand : Operand α} :
    readOperand less read .between value = .ok operand ↔
      ∃ low high a b, value = .array [low, high] ∧ read low = .ok a ∧ read high = .ok b ∧
        less b a = false ∧ operand = .range a b := by
  constructor
  · intro made
    unfold readOperand at made
    dsimp only at made
    split at made
    · next low high =>
      obtain ⟨a, first, made⟩ := bind_eq_ok.mp made
      obtain ⟨b, second, made⟩ := bind_eq_ok.mp made
      split_ifs at made with exceeds
      cases made
      exact ⟨low, high, a, b, rfl, first, second, eq_false_of_ne_true exceeds, rfl⟩
    · cases made
  · rintro ⟨low, high, a, b, rfl, first, second, within, rfl⟩
    refine bind_eq_ok.mpr ⟨a, first, bind_eq_ok.mpr ⟨b, second, ?_⟩⟩
    rw [within]
    rfl

theorem predicate?_one_iff (one : operator.takesOne = true)
    (supported : field.supports operator = true) :
    predicate? matching field operator value = some passes ↔
      ∃ operand, (field.scale matching).read value = .ok operand ∧
        (field.scale matching).judge operator (.single operand) = passes := by
  simp only [predicate?_one one supported, Option.map_eq_some_iff, toOption_eq_some]

theorem predicate?_between_iff (supported : field.supports .between = true) :
    predicate? matching field .between value = some passes ↔
      ∃ low high above below, value = .array [low, high] ∧
        predicate? matching field .greaterOrEqual low = some above ∧
        predicate? matching field .lessOrEqual high = some below ∧
        ¬ (field.scale matching).Exceeds low high ∧
        passes = fun record => above record && below record := by
  have lower : field.supports .greaterOrEqual = true := by
    revert supported
    cases field <;> decide
  have upper : field.supports .lessOrEqual = true := by
    revert supported
    cases field <;> decide
  simp only [predicate?_whole rfl supported, Option.map_eq_some_iff, toOption_eq_some,
    readOperand_between, predicate?_one_iff rfl lower, predicate?_one_iff rfl upper]
  constructor
  · rintro ⟨operand, ⟨low, high, a, b, rfl, first, second, within, rfl⟩, rfl⟩
    refine ⟨low, high, _, _, rfl, ⟨a, first, rfl⟩, ⟨b, second, rfl⟩, ?_,
      funext fun record => Scale.judge_between a b⟩
    rintro ⟨a', b', first', second', exceeds⟩
    cases first.symm.trans first'
    cases second.symm.trans second'
    exact Bool.noConfusion (within.symm.trans exceeds)
  · rintro ⟨low, high, _, _, rfl, ⟨a, first, rfl⟩, ⟨b, second, rfl⟩, within, rfl⟩
    refine ⟨.range a b, ⟨low, high, a, b, rfl, first, second, ?_, rfl⟩,
      funext fun record => Scale.judge_between a b⟩
    by_contra exceeds
    exact within ⟨a, b, first, second, eq_true_of_ne_false exceeds⟩

/-- Where the values are ordered, an operand is refused by all operators that take one value, or
these tell the records apart by the order. -/
theorem predicate?_ordered (ordered : field = .timestamp ∨ field = .processId) (value : Json) :
    (∀ operator ∈ [Operator.lessThan, .equals, .greaterThan, .greaterOrEqual, .lessOrEqual],
      predicate? matching field operator value = none) ∨
    ∃ below same above, predicate? matching field .lessThan value = some below ∧
      predicate? matching field .equals value = some same ∧
      predicate? matching field .greaterThan value = some above ∧
      (predicate? matching field .greaterOrEqual value =
        some fun record => above record || same record) ∧
      (predicate? matching field .lessOrEqual value =
        some fun record => below record || same record) ∧
      ∀ record : Record, ¬ record.Lacks field →
        [below record, same record, above record].count true = 1 := by
  have supported : ∀ operator : Operator, operator.takesOne = true →
      field.supports operator = true := by
    obtain rfl | rfl := ordered <;> intro operator <;> cases operator <;> decide
  cases read : (field.scale matching).read value with
  | error reason =>
    refine .inl fun operator member => ?_
    have one : operator.takesOne = true := by
      revert operator
      decide
    rw [predicate?_one one (supported operator one), read]
    rfl
  | ok operand =>
    have made (operator : Operator) (one : operator.takesOne = true) :
        predicate? matching field operator value =
          some ((field.scale matching).judge operator (.single operand)) :=
      (predicate?_one_iff one (supported operator one)).mpr ⟨operand, read, rfl⟩
    have order : (field.scale matching).IsOrdered := Field.scale_isOrdered ordered
    refine .inr ⟨_, _, _, made .lessThan rfl, made .equals rfl, made .greaterThan rfl, ?_, ?_, ?_⟩
    · rw [made .greaterOrEqual rfl]
      exact congrArg some (funext fun record => Scale.judge_greaterOrEqual order operand)
    · rw [made .lessOrEqual rfl]
      exact congrArg some (funext fun record => Scale.judge_lessOrEqual order operand)
    · intro record has
      obtain ⟨actual, known⟩ := Option.ne_none_iff_exists'.mp (mt Field.actual_eq_none.mp has)
      exact Scale.judge_count order operand known

/-- A list of values is any of its values, and a negated one is all of them negated. A range is from
its lower end on and up to its upper end. Where there is an order, a record is below, at or above a
value. -/
theorem operator_algebra (matching : Matching) (field : Field) :
    (field.supports .isIn = true → ∀ value passes,
      (predicate? matching field .isIn value = some passes ↔
        ∃ items each, value = .array items ∧ items ≠ [] ∧
          items.mapM (predicate? matching field .equals) = some each ∧
          passes = fun record => each.any fun one => one record) ∧
      (predicate? matching field .notIn value = some passes ↔
        ∃ items each, value = .array items ∧ items ≠ [] ∧
          items.mapM (predicate? matching field .notEquals) = some each ∧
          passes = fun record => each.all fun one => one record)) ∧
    (field.supports .between = true → ∀ value passes,
      predicate? matching field .between value = some passes ↔
        ∃ low high above below, value = .array [low, high] ∧
          predicate? matching field .greaterOrEqual low = some above ∧
          predicate? matching field .lessOrEqual high = some below ∧
          ¬ (field.scale matching).Exceeds low high ∧
          passes = fun record => above record && below record) ∧
    (field = .timestamp ∨ field = .processId → ∀ value,
      (∀ operator ∈ [Operator.lessThan, .equals, .greaterThan, .greaterOrEqual, .lessOrEqual],
        predicate? matching field operator value = none) ∨
      ∃ below same above, predicate? matching field .lessThan value = some below ∧
        predicate? matching field .equals value = some same ∧
        predicate? matching field .greaterThan value = some above ∧
        (predicate? matching field .greaterOrEqual value =
          some fun record => above record || same record) ∧
        (predicate? matching field .lessOrEqual value =
          some fun record => below record || same record) ∧
        ∀ record : Record, ¬ record.Lacks field →
          [below record, same record, above record].count true = 1) := by
  refine ⟨fun supported value passes => ⟨?_, ?_⟩, fun supported value passes => ?_, ?_⟩
  · exact predicate?_isIn_iff supported
  · exact predicate?_notIn_iff supported
  · exact predicate?_between_iff supported
  · exact predicate?_ordered

/-- Process ids are written as numbers or as texts. -/
theorem operator_algebra_processId :
    let record : Record := ⟨"app.log", 1, .utc ⟨0, 0⟩, "info", "", "", some 15, none⟩
    let ids : List Json := [.integer 7, .string " 15 "]
    (∃ each, ids.mapM (predicate? ⟨false⟩ .processId .equals) = some each ∧
      predicate? ⟨false⟩ .processId .isIn (.array ids) =
        some (fun record => each.any fun one => one record)) ∧
    (∃ passes, predicate? ⟨false⟩ .processId .between (.array ids) = some passes ∧
      passes record = true) ∧
    ∃ below same above, predicate? ⟨false⟩ .processId .lessThan (.string "20") = some below ∧
      predicate? ⟨false⟩ .processId .equals (.string "20") = some same ∧
      predicate? ⟨false⟩ .processId .greaterThan (.string "20") = some above ∧
      [below record, same record, above record].count true = 1 := by
  intro record ids
  obtain ⟨members, range, ordered⟩ := operator_algebra ⟨false⟩ .processId
  let test (operator : Operator) (id : Nat) := (Test.processId operator (.single id)).accepts
  refine ⟨⟨[test .equals 7, test .equals 15], rfl, ?_⟩,
    ⟨fun record => test .greaterOrEqual 7 record && test .lessOrEqual 15 record, ?_, rfl⟩, ?_⟩
  · exact ((members rfl (.array ids) _).1).mpr ⟨ids, _, rfl, List.cons_ne_nil _ _, rfl, rfl⟩
  · refine (range rfl (.array ids) _).mpr ⟨_, _, test .greaterOrEqual 7, test .lessOrEqual 15,
      rfl, rfl, rfl, ?_, rfl⟩
    rintro ⟨(low : Nat), (high : Nat), first, second, exceeds⟩
    obtain rfl : 7 = low := Except.ok.inj first
    obtain rfl : 15 = high := Except.ok.inj second
    exact Bool.false_ne_true exceeds
  · obtain refused | ⟨below, same, above, less, equal, greater, -, -, one⟩ :=
      ordered (.inr rfl) (.string "20")
    · cases refused .equals (by simp)
    · exact ⟨below, same, above, less, equal, greater, one record nofun⟩

end Comparison

end LogSieve
