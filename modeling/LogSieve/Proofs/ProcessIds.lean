import LogSieve.Proofs.OperatorLaws

/-! Process ids as operands. An id is written as an integer or as a text of digits, which may have
blanks around it, a plus sign and zeros in front. In whatever way it is written, the operand is the
number itself, from zero to the greatest one of 32 bits, and the operators compare it as integers
are compared. Nothing else is taken for an id. -/

namespace LogSieve

open Text

def Text.IsNumeral (n : Nat) (text : List Char) : Prop :=
  ∃ sign digits, text = sign ++ digits ∧ (sign = [] ∨ sign = ['+']) ∧ digits ≠ [] ∧
    (∀ c ∈ digits, c.isDigit = true) ∧ Nat.ofDigitChars 10 digits 0 = n

namespace Json

def IsProcessId (id : Nat) : Json → Prop
  | integer n => n = id ∧ id < 0x100000000
  | string text => IsNumeral id (trim text.toList) ∧ id < 0x100000000
  | _ => False

def IsIdOperand (operator : Operator) (value : Json) : Operand Nat → Prop
  | .single id => operator.takesOne = true ∧ value.IsProcessId id
  | .range low high => operator = .between ∧ ∃ first last, value = .array [first, last] ∧
      first.IsProcessId low ∧ last.IsProcessId high ∧ low ≤ high
  | .set ids => (operator = .isIn ∨ operator = .notIn) ∧ ∃ items, value = .array items ∧
      items ≠ [] ∧ List.Forall₂ (fun item id => item.IsProcessId id) items ids

end Json

def Operand.Relates (operator : Operator) (actual : Int) : Operand Nat → Prop
  | single id =>
    match operator with
    | .equals => actual = id
    | .notEquals => actual ≠ id
    | .greaterThan => actual > id
    | .lessThan => actual < id
    | .greaterOrEqual => actual ≥ id
    | .lessOrEqual => actual ≤ id
    | _ => False
  | range low high => operator = .between ∧ low ≤ actual ∧ actual ≤ high
  | set ids =>
    match operator with
    | .isIn => ∃ id ∈ ids, actual = id
    | .notIn => ∀ id ∈ ids, actual ≠ id
    | _ => False

/-- The record passes by its process id; without one it passes the negated operators. -/
def Record.PassesById (record : Record) (operator : Operator) (operand : Operand Nat) : Prop :=
  match record.processId with
  | some actual => operand.Relates operator actual
  | none => operator.isNegated = true

theorem Operand.accepts_iff_relates (operator : Operator) (actual : Nat) (operand : Operand Nat) :
    operand.accepts (fun a b => decide (a < b)) operator actual = true ↔
      operand.Relates operator actual := by
  cases operand with
  | single id =>
    cases operator <;> simp only [accepts, Relates, decide_eq_true_eq, Bool.not_eq_true',
      decide_eq_false_iff_not, Bool.false_eq_true] <;> omega
  | range low high => cases operator <;> simp [accepts, Relates]
  | set ids =>
    cases operator <;> simp only [accepts, Relates, List.any_eq_true, List.all_eq_true,
      decide_eq_true_eq, Int.natCast_inj, ne_eq, @eq_comm Nat actual, Bool.false_eq_true]

namespace Comparison

variable {operator : Operator} {value : Json}

/-! ### Reading -/

theorem readNatural_eq_some {text : List Char} {n : Nat} :
    readNatural text = some n ↔ IsNumeral n text := by
  have read (digits : List Char) : (if digits.isEmpty || !digits.all Char.isDigit then none
      else some (digits.foldl (fun n c => 10 * n + (c.toNat - 48)) 0)) = some n ↔
        digits ≠ [] ∧ (∀ c ∈ digits, c.isDigit = true) ∧ Nat.ofDigitChars 10 digits 0 = n := by
    rw [Nat.ofDigitChars_eq_foldl]
    simp [and_assoc]
  unfold readNatural
  dsimp only
  constructor
  · intro same
    split at same
    · next rest => exact ⟨['+'], rest, rfl, .inr rfl, (read rest).mp same⟩
    · exact ⟨[], text, rfl, .inl rfl, (read text).mp same⟩
  · rintro ⟨sign, digits, rfl, rfl | rfl, numeral⟩
    · -- A plus sign is no digit, so there is none to be taken off.
      split
      · next rest same =>
        rw [List.nil_append] at same
        exact absurd (numeral.2.1 '+' (same ▸ List.mem_cons_self)) (by decide)
      · exact (read digits).mpr numeral
    · exact (read digits).mpr numeral

theorem readProcessId_eq_ok {id : Nat} : readProcessId value = .ok id ↔ value.IsProcessId id := by
  have limited : readProcessId value = .ok id ↔ processId? value = some id ∧ id < 0x100000000 := by
    have limit : processIdLimit = 0x100000000 := rfl
    unfold readProcessId
    cases processId? value with
    | none => simp
    | some found =>
      dsimp only
      rw [limit]
      split_ifs with small
      · have same : found = id → id < 0x100000000 := fun same => same ▸ small
        simpa using same
      · have large : found = id → 0x100000000 ≤ id := fun same => same ▸ Nat.le_of_not_lt small
        simpa using large
  rw [limited]
  cases value with
  | integer n =>
    rw [processId?, Option.ite_none_right_eq_some, Option.some.injEq, Json.IsProcessId]
    omega
  | string text => exact and_congr_left' readNatural_eq_some
  | _ => simp [processId?, Json.IsProcessId]

/-! ### Operands -/

theorem readMembers_eq_ok {read : Json → Except String α} {values : List α} :
    readMembers read value = .ok values ↔ ∃ items, value = .array items ∧ items ≠ [] ∧
      List.Forall₂ (fun item value => read item = .ok value) items values := by
  constructor
  · intro made
    match value, made with
    | .array (item :: rest), made =>
      rw [readMembers_array (List.cons_ne_nil item rest)] at made
      exact ⟨item :: rest, rfl, List.cons_ne_nil item rest, mapM_eq_ok.mp made⟩
  · rintro ⟨items, rfl, inhabited, each⟩
    rw [readMembers_array inhabited]
    exact mapM_eq_ok.mpr each

theorem readOperand_eq_ok (supported : Field.processId.supports operator = true)
    {operand : Operand Nat} :
    readOperand (fun a b => decide (a < b)) readProcessId operator value = .ok operand ↔
      Json.IsIdOperand operator value operand := by
  by_cases one : operator.takesOne = true
  · have apart : operator ≠ .between ∧ ¬ (operator = .isIn ∨ operator = .notIn) := by
      revert one
      cases operator <;> decide
    simp only [readOperand_single one, map_eq_ok, readProcessId_eq_ok]
    cases operand <;> simp [Json.IsIdOperand, one, apart]
  by_cases member : operator = .isIn ∨ operator = .notIn
  · have apart : operator ≠ .between := by
      obtain rfl | rfl := member <;> decide
    simp only [readOperand_set member, map_eq_ok, readMembers_eq_ok, readProcessId_eq_ok]
    cases operand <;> simp [Json.IsIdOperand, one, member, apart]
  · obtain rfl : operator = .between := by
      revert supported one member
      cases operator <;> decide
    simp only [readOperand_between, readProcessId_eq_ok]
    cases operand <;> simp [Json.IsIdOperand, one]

theorem isIdOperand_iff {id : Nat} (named : value.IsProcessId id) {operand : Operand Nat} :
    Json.IsIdOperand operator value operand ↔ operator.takesOne = true ∧ operand = .single id := by
  have only {other : Nat} : value.IsProcessId other ↔ other = id := by
    constructor
    · intro also
      rw [← readProcessId_eq_ok] at named also
      exact Except.ok.inj (also.symm.trans named)
    · rintro rfl
      exact named
  have notList {items : List Json} : value ≠ .array items := by
    rintro rfl
    exact named
  cases operand <;> simp [Json.IsIdOperand, only, notList]

/-! ### Predicates -/

variable {matching : Matching} {passes : Record → Bool}

theorem judge_eq_iff {operand : Operand Nat} :
    (Field.processId.scale matching).judge operator operand = passes ↔
      ∀ record, passes record = true ↔ record.PassesById operator operand := by
  have judged (record : Record) :
      (Field.processId.scale matching).judge operator operand record = true ↔
        record.PassesById operator operand := by
    simp only [Scale.judge, Field.scale, Record.PassesById]
    cases record.processId with
    | none => rfl
    | some actual => exact operand.accepts_iff_relates operator actual
  constructor
  · rintro rfl
    exact judged
  · intro same
    funext record
    exact Bool.eq_iff_iff.mpr ((judged record).trans (same record).symm)

theorem predicate?_processId_iff : predicate? matching .processId operator value = some passes ↔
    ∃ operand, Json.IsIdOperand operator value operand ∧
      ∀ record, passes record = true ↔ record.PassesById operator operand := by
  cases supported : Field.processId.supports operator with
  | false =>
    have apart : operator.takesOne = false ∧ operator ≠ .between ∧
        ¬ (operator = .isIn ∨ operator = .notIn) := by
      revert supported
      cases operator <;> decide
    rw [predicate?_of_not_supported supported]
    refine iff_of_false nofun ?_
    rintro ⟨operand, shaped, -⟩
    cases operand <;> simp [Json.IsIdOperand, apart] at shaped
  | true =>
    have whole : operator.comparesWhole = true := by
      revert supported
      cases operator <;> decide
    rw [predicate?_whole whole supported, Option.map_eq_some_iff]
    refine exists_congr fun operand => and_congr ?_ judge_eq_iff
    exact toOption_eq_some.trans (readOperand_eq_ok supported)

theorem predicate?_of_isProcessId {id : Nat} (named : value.IsProcessId id) :
    predicate? matching .processId operator value =
      predicate? matching .processId operator (.integer id) := by
  have number : (Json.integer id).IsProcessId id := by
    cases value with
    | integer n => exact ⟨rfl, named.2⟩
    | string text => exact ⟨rfl, named.2⟩
    | _ => exact named.elim
  refine Option.ext fun passes => ?_
  rw [predicate?_processId_iff, predicate?_processId_iff]
  simp only [isIdOperand_iff named, isIdOperand_iff number]

theorem predicate?_of_no_id (none : ∀ id, ¬ value.IsProcessId id)
    (single : ∀ items, value ≠ .array items) :
    predicate? matching .processId operator value = .none := by
  refine Option.eq_none_iff_forall_ne_some.mpr fun passes made => ?_
  obtain ⟨operand, shaped, -⟩ := predicate?_processId_iff.mp made
  cases operand <;> simp [Json.IsIdOperand, none, single] at shaped

end Comparison

open Comparison

/-- Process ids are read as they are written and compared as integers. -/
structure ExactIds (matching : Matching) : Prop where
  read : ∀ value (id : Nat), readProcessId value = .ok id ↔ value.IsProcessId id
  single : ∀ operator value, operator.takesOne = true →
    ((predicate? matching .processId operator value).isSome = true ↔ ∃ id, value.IsProcessId id)
  spelled : ∀ operator value (id : Nat), value.IsProcessId id →
    predicate? matching .processId operator value =
      predicate? matching .processId operator (.integer id)
  judged : ∀ operator value passes, predicate? matching .processId operator value = some passes ↔
    ∃ operand, Json.IsIdOperand operator value operand ∧
      ∀ record, passes record = true ↔ record.PassesById operator operand
  outside : ∀ operator (n : Int), n < 0 ∨ 0x100000000 ≤ n →
    predicate? matching .processId operator (.integer n) = none
  broken : ∀ operator (x : Float), predicate? matching .processId operator (.double x) = none

theorem exactIds (matching : Matching) : ExactIds matching where
  read _ _ := readProcessId_eq_ok
  single operator value one := by
    have supported : Field.processId.supports operator = true := by
      revert one
      cases operator <;> decide
    rw [predicate?_one one supported, Option.isSome_map, Option.isSome_iff_exists]
    exact exists_congr fun id => toOption_eq_some.trans readProcessId_eq_ok
  spelled _ _ _ := predicate?_of_isProcessId
  judged _ _ _ := predicate?_processId_iff
  outside operator n far := by
    refine predicate?_of_no_id (fun id named => ?_) nofun
    obtain ⟨rfl, small⟩ : n = id ∧ id < 0x100000000 := named
    omega
  broken _ _ := predicate?_of_no_id (fun _ => id) nofun

/-- The greatest id, with a sign, with zeros and between blanks of two kinds. -/
theorem exactIds_greatest :
    let text : Json := .string "\t+0004294967295\xa0"
    let record : Record := ⟨"app.log", 1, .utc ⟨0, 0⟩, "info", "", "", some 4294967295, none⟩
    text.IsProcessId 4294967295 ∧
      predicate? ⟨false⟩ .processId .equals text =
        predicate? ⟨false⟩ .processId .equals (.integer 4294967295) ∧
      ∃ passes, predicate? ⟨false⟩ .processId .greaterOrEqual text = some passes ∧
        passes record = true := by
  intro text record
  have trimmed : trim "\t+0004294967295\xa0".toList = ['+'] ++ "0004294967295".toList := by
    decide +kernel
  have digits : ∀ c ∈ "0004294967295".toList, c.isDigit = true := List.all_eq_true.mp (by decide)
  have named : text.IsProcessId 4294967295 :=
    ⟨⟨_, _, trimmed, .inr rfl, by decide, digits, by decide⟩, by decide⟩
  have exact := exactIds ⟨false⟩
  refine ⟨named, exact.spelled .equals text _ named, ?_⟩
  obtain ⟨passes, made⟩ := Option.isSome_iff_exists.mp
    ((exact.single .greaterOrEqual text rfl).mpr ⟨_, named⟩)
  obtain ⟨operand, shaped, judged⟩ := (exact.judged .greaterOrEqual text passes).mp made
  obtain ⟨-, rfl⟩ := (isIdOperand_iff named).mp shaped
  exact ⟨passes, made, (judged record).mpr (Int.le_refl _)⟩

end LogSieve
