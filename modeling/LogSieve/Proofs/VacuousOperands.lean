import LogSieve.Proofs.Notices
import LogSieve.Proofs.Operands

/-! Empty operands. An operator that looks for a part of a text finds the empty part in every text,
so the warnings about empty operands hold of every record that has a text in the field. The user of
a record can be absent, and a record without one is judged the other way: of it the warnings are
false. -/

namespace LogSieve

namespace Operator

def seeksPart : Operator → Bool
  | contains | notContains | startsWith | endsWith => true
  | _ => false

theorem kind_of_seeksPart {field : Field} {operator : Operator} :
    operator.seeksPart = true → field.supports operator = true → field.kind = .text := by
  cases field <;> cases operator <;> decide

theorem seeksPart_and_not_isNegated {operator : Operator} :
    operator ∈ [contains, startsWith, endsWith] ↔
      operator.seeksPart = true ∧ operator.isNegated = false := by
  cases operator <;> decide

theorem seeksPart_and_isNegated {operator : Operator} :
    operator = notContains ↔ operator.seeksPart = true ∧ operator.isNegated = true := by
  cases operator <;> decide

end Operator

theorem acceptsText_empty {operator : Operator} (part : operator.seeksPart = true)
    (actual : String) : acceptsText operator "" actual = !operator.isNegated := by
  have empty : "".toList = [] := rfl
  cases operator with
  | contains | notContains => simp [acceptsText, empty, includes_nil_left, Operator.isNegated]
  | startsWith | endsWith => simp [acceptsText, empty, Operator.isNegated]
  | _ => cases part

theorem comparable_empty (caseSensitive : Bool) : comparable caseSensitive "" = "" := by
  cases caseSensitive <;> rfl

theorem Comparison.readTest_empty {comparison : Comparison}
    (part : comparison.operator.seeksPart = true) :
    comparison.readTest (.string "") =
      .ok (.literal comparison.field comparison.operator comparison.matching.caseSensitive "") := by
  obtain ⟨field, operator, matching, supported⟩ := comparison
  have text : field.kind = .text := Operator.kind_of_seeksPart part supported
  have literal : ∀ field, readText field operator matching (.string "") =
      .ok (.literal field operator matching.caseSensitive
        (comparable matching.caseSensitive "")) := by
    intro field
    cases operator with
    | contains | notContains | startsWith | endsWith => rfl
    | _ => cases part
  rw [comparable_empty] at literal
  cases field with
  | message | node | username => exact literal _
  | timestamp | level | processId => cases text

theorem Leaf.accepts_empty {matching : Matching} {criterion : Criterion} {leaf : Leaf}
    (made : Leaf.ofCriterion matching criterion = .ok leaf) (empty : criterion.value = .string "")
    (part : leaf.operator.seeksPart = true) (record : Record) :
    leaf.accepts record = ((record.text? leaf.field).isSome != leaf.operator.isNegated) := by
  obtain ⟨comparison, test, -, tested, rfl⟩ := Leaf.ofCriterion_eq_ok.mp made
  have read := Comparison.readTest_of_test tested
  rw [empty, Comparison.readTest_empty part] at read
  cases read
  dsimp only [Test.accepts]
  cases record.text? comparison.field with
  | none => rw [Option.isSome_none, Bool.false_bne]
  | some actual =>
    rw [Option.isSome_some, Bool.true_bne]
    exact acceptsText_empty part _

theorem Record.isSome_text? {field : Field} (text : field.kind = .text) (record : Record) :
    (record.text? field).isSome = true ↔ ¬ (field = .username ∧ record.username = none) := by
  cases field with
  | message | node => simp [text?]
  | username => simp [text?, Option.isSome_iff_ne_none]
  | timestamp | level | processId => cases text

/-- A record without the user that is asked for is judged against the report. -/
theorem Leaf.accepts_eq_isNegated {matching : Matching} {criterion : Criterion} {leaf : Leaf}
    (made : Leaf.ofCriterion matching criterion = .ok leaf) (empty : criterion.value = .string "")
    (part : leaf.operator.seeksPart = true) (record : Record) :
    leaf.accepts record = leaf.operator.isNegated ↔
      leaf.field = .username ∧ record.username = none := by
  have supported := Catalog.supports_of_resolve (resolve_of_ofCriterion made)
  have text := Operator.kind_of_seeksPart part supported
  rw [Leaf.accepts_empty made empty part, ← not_iff_not, ← Record.isSome_text? text]
  cases (record.text? leaf.field).isSome <;> cases leaf.operator.isNegated <;> decide

theorem Json.string?_eq_some_iff {value : Json} {text : String} :
    value.string? = some text ↔ value = .string text := by
  cases value <;> simp [string?]

/-! ### Texts that differ -/

namespace Text

variable {front front' back back' a b : String}

theorem between_inj : front ++ a ++ back = front ++ b ++ back ↔ a = b := by
  rw [String.append_left_inj, String.append_right_inj]

theorem append_ne_of_not_prefix (differ : ¬ front.toList <+: a.toList) : front ++ back ≠ a := by
  rintro rfl
  exact differ ⟨back.toList, String.toList_append.symm⟩

theorem append_ne_of_not_suffix (shorter : back.toList.length ≤ back'.toList.length)
    (differ : ¬ back.toList <:+ back'.toList) : front ++ back ≠ front' ++ back' := by
  intro same
  have chars : front'.toList ++ back'.toList = front.toList ++ back.toList := by
    rw [← String.toList_append, ← same, String.toList_append]
  exact differ (List.suffix_of_suffix_length_le ⟨_, rfl⟩ ⟨_, chars⟩ shorter)

end Text

namespace Review

variable {operator : Operator} {value : Json} {name : String}

def emptied (negated : Bool) (name : String) : String :=
  match negated with
  | false => s!"empty value for '{name}' matches every record"
  | true => s!"empty value for '{name}' matches no record"

theorem emptied_inj {negated negated' : Bool} {name name' : String} :
    emptied negated name = emptied negated' name' ↔ negated = negated' ∧ name = name' := by
  -- The operators' names could be anything, so the two texts are told apart by their ends.
  have differ (name name' : String) : emptied true name ≠ emptied false name' :=
    Text.append_ne_of_not_suffix (by decide) (by decide)
  cases negated <;> cases negated'
  case false.false | true.true => exact Text.between_inj.trans (and_iff_right rfl).symm
  case false.true => simp [(differ name' name).symm]
  case true.false => simp [differ name name']

theorem emptied_ne_regular {negated : Bool} {name : String} : emptied negated name ≠
    "regular expressions are the most expensive filters and run after cheaper ones" := by
  cases negated
  all_goals
    dsimp only [emptied]
    rw [String.append_assoc]
    exact Text.append_ne_of_not_prefix (by decide)

theorem advice_of_seeksPart (part : operator.seeksPart = true) :
    advice operator value =
      if value.string? == some "" then some (emptied operator.isNegated operator.name)
      else none := by
  cases operator with
  | contains | notContains | startsWith | endsWith => rfl
  | _ => cases part

theorem advice_eq_emptied {negated : Bool} :
    advice operator value = some (emptied negated name) ↔
      value = .string "" ∧ operator.seeksPart = true ∧ operator.isNegated = negated ∧
        operator.name = name := by
  by_cases part : operator.seeksPart = true
  · rw [advice_of_seeksPart part, Option.ite_none_right_eq_some, beq_iff_eq, Option.some_inj,
      emptied_inj, Json.string?_eq_some_iff, and_iff_right part]
  · refine iff_of_false (fun same => ?_) (fun empty => part empty.2.1)
    cases operator with
    | contains | notContains | startsWith | endsWith => exact part rfl
    | regex => exact emptied_ne_regular (Option.some.inj same).symm
    | _ => cases same

variable {matching : Matching} {criteria : List Criterion} {place : Nat}

theorem emptied_mem_warnings {negated : Bool} :
    (Notice.advice (emptied negated name)).warning place ∈ (review matching criteria).warnings ↔
      ∃ criterion leaf, (criterion, place) ∈ criteria.zipIdx 1 ∧
        Leaf.ofCriterion matching criterion = .ok leaf ∧ criterion.value = .string "" ∧
        (leaf.operator.seeksPart = true ∧ leaf.operator.isNegated = negated) ∧
        leaf.operator.name = name ∧
        ∀ record, leaf.accepts record = negated ↔
          leaf.field = .username ∧ record.username = none := by
  rw [warning_mem_warnings]
  simp only [Reviewed.advice_mem_notices, advice_eq_emptied]
  constructor
  · rintro ⟨reviewed, member, rfl, empty, part, rfl, same⟩
    obtain ⟨criterion, place, leaf, placed, made, rfl⟩ := mem_passed.mp member
    exact ⟨criterion, leaf, placed, made, empty, ⟨part, rfl⟩, same,
      Leaf.accepts_eq_isNegated made empty part⟩
  · rintro ⟨criterion, leaf, placed, made, empty, ⟨part, negative⟩, same, -⟩
    exact ⟨⟨place, leaf.field, leaf.operator, criterion.value⟩,
      mem_passed.mpr ⟨criterion, place, leaf, placed, made, rfl⟩, rfl, empty, part, negative, same⟩

theorem warning_emptied (negated : Bool) :
    (Notice.advice (emptied negated name)).warning place =
      match negated with
      | false => s!"{label place}: empty value for '{name}' matches every record"
      | true => s!"{label place}: empty value for '{name}' matches no record" := by
  have front : ": empty value for '" = ": " ++ "empty value for '" := by decide
  cases negated
  all_goals
    dsimp only [Notice.warning, Notice.text, emptied]
    rw [front]
    simp only [String.append_assoc]
    rfl

end Review

/-- An empty operand of `contains`, `startsWith` or `endsWith` is reported to match every record,
and one of `notContains` to match none. The condition of the criterion is true to the report for each
record but one that lacks the user asked for, where it is the opposite. -/
theorem review_empty_operands (matching : Matching) (criteria : List Criterion) (place : Nat)
    (name : String) :
    let warnings := (review matching criteria).warnings
    (s!"{Review.label place}: empty value for '{name}' matches every record" ∈ warnings ↔
      ∃ criterion leaf, (criterion, place) ∈ criteria.zipIdx 1 ∧
        Leaf.ofCriterion matching criterion = .ok leaf ∧ criterion.value = .string "" ∧
        leaf.operator ∈ [.contains, .startsWith, .endsWith] ∧ leaf.operator.name = name ∧
        ∀ record, leaf.accepts record = false ↔
          leaf.field = .username ∧ record.username = none) ∧
    (s!"{Review.label place}: empty value for '{name}' matches no record" ∈ warnings ↔
      ∃ criterion leaf, (criterion, place) ∈ criteria.zipIdx 1 ∧
        Leaf.ofCriterion matching criterion = .ok leaf ∧ criterion.value = .string "" ∧
        leaf.operator = .notContains ∧ leaf.operator.name = name ∧
        ∀ record, leaf.accepts record = true ↔
          leaf.field = .username ∧ record.username = none) := by
  intro warnings
  have every : s!"{Review.label place}: empty value for '{name}' matches every record" =
      (Notice.advice (Review.emptied false name)).warning place :=
    (Review.warning_emptied false).symm
  have none : s!"{Review.label place}: empty value for '{name}' matches no record" =
      (Notice.advice (Review.emptied true name)).warning place :=
    (Review.warning_emptied true).symm
  simp only [Operator.seeksPart_and_not_isNegated, Operator.seeksPart_and_isNegated]
  rw [every, none]
  exact ⟨Review.emptied_mem_warnings, Review.emptied_mem_warnings⟩

/-- Anybody who asks for the empty part of the user is told that every record matches, and does not
get a record without a user. -/
theorem empty_operand_misreported :
    let matching : Matching := ⟨false⟩
    let criterion : Criterion := ⟨"Username", "contains", .string ""⟩
    let record : Record :=
      ⟨"app.log", 1, ⟨⟨0, 0⟩, 0⟩, "INFO", "started", "", none, none⟩
    "Criterion 1: empty value for 'contains' matches every record" ∈
        (review matching [criterion]).warnings ∧
      ∃ leaf, Leaf.ofCriterion matching criterion = .ok leaf ∧ leaf.accepts record = false := by
  intro matching criterion record
  have warned : "Criterion 1: empty value for 'contains' matches every record" ∈
      (review matching [criterion]).warnings := by decide +kernel
  have resolved : Catalog.resolve "Username" "contains" = .ok (.username, .contains) := by
    decide +kernel
  have supported : Field.username.supports .contains = true := by decide
  let comparison : Comparison := ⟨.username, .contains, matching, supported⟩
  have named : Comparison.named matching "Username" "contains" = .ok comparison :=
    bind_eq_ok.mpr ⟨_, resolved, dif_pos supported⟩
  exact ⟨warned, _, bind_eq_ok.mpr ⟨comparison, named, rfl⟩, rfl⟩

end LogSieve
