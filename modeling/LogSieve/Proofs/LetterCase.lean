import LogSieve.Proofs.OperatorLaws

/-! Texts without their letter case. The text that a criterion looks for and the text of a record
are put in small letters one by one, each as a whole. The small form of a capital sigma depends on
what stands around it, so a part of a text can get other small letters than it has on its own, and
what is found with the case can be missed without it. This is all that can go wrong. -/

namespace LogSieve

namespace Text

/-- Small letters of a part where it stands: `before` holds what is in front of it, last character
first, and `after` what follows it. -/
def lowerBetween (before : List Char) : List Char → List Char → List Char
  | [], _ => []
  | c :: part, after =>
    (if c = 'Σ' then [lowerSigma before (part ++ after)] else lowerChar c) ++
      lowerBetween (c :: before) part after

variable {before part after : List Char}

theorem lowerFrom_nil (before : List Char) : lowerFrom before [] = [] := rfl

theorem lowerFrom_cons (before : List Char) (c : Char) (text : List Char) :
    lowerFrom before (c :: text) =
      (if c = 'Σ' then [lowerSigma before text] else lowerChar c) ++ lowerFrom (c :: before) text :=
  rfl

theorem lowerBetween_cons (before : List Char) (c : Char) (part after : List Char) :
    lowerBetween before (c :: part) after =
      (if c = 'Σ' then [lowerSigma before (part ++ after)] else lowerChar c) ++
        lowerBetween (c :: before) part after :=
  rfl

theorem lowerFrom_append (before part after : List Char) :
    lowerFrom before (part ++ after) =
      lowerBetween before part after ++ lowerFrom (part.reverse ++ before) after := by
  induction part generalizing before with
  | nil => rfl
  | cons c part ih => simp [lowerFrom_cons, lowerBetween_cons, ih]

theorem lowerChars_eq_lowerBetween (text : List Char) :
    lowerChars text = lowerBetween [] text [] := by
  have whole := lowerFrom_append [] text []
  rwa [List.append_nil, lowerFrom_nil, List.append_nil] at whole

theorem lowerChars_append (before part after : List Char) :
    lowerChars (before ++ part ++ after) =
      lowerBetween [] before (part ++ after) ++ lowerBetween before.reverse part after ++
        lowerFrom (part.reverse ++ before.reverse) after := by
  rw [lowerChars, List.append_assoc, lowerFrom_append, lowerFrom_append]
  simp

theorem length_lowerBetween (before after before' after' part : List Char) :
    (lowerBetween before part after).length = (lowerBetween before' part after').length := by
  induction part generalizing before before' with
  | nil => rfl
  | cons c part ih =>
    rw [lowerBetween_cons, lowerBetween_cons, List.length_append, List.length_append,
      ih _ (c :: before')]
    split <;> rfl

/-- The part has the small letters where it stands that it has on its own. -/
def KeepsForm (before part after : List Char) : Prop :=
  lowerBetween before.reverse part after = lowerChars part

theorem lowerBetween_eq_of_not_mem (plain : 'Σ' ∉ part) (before after before' after' : List Char) :
    lowerBetween before part after = lowerBetween before' part after' := by
  induction part generalizing before before' with
  | nil => rfl
  | cons c part ih =>
    obtain ⟨other, plain⟩ : 'Σ' ≠ c ∧ 'Σ' ∉ part := by simpa using plain
    rw [lowerBetween_cons, lowerBetween_cons, if_neg (Ne.symm other), if_neg (Ne.symm other),
      ih plain _ (c :: before')]

theorem keepsForm_of_not_mem (plain : 'Σ' ∉ part) : KeepsForm before part after :=
  (lowerBetween_eq_of_not_mem plain ..).trans (lowerChars_eq_lowerBetween part).symm

theorem keepsForm_alone (part : List Char) : KeepsForm [] part [] :=
  (lowerChars_eq_lowerBetween part).symm

end Text

open Text

def Operator.Allows : Operator → List Char → List Char → Prop
  | equals, before, after => before = [] ∧ after = []
  | contains, _, _ => True
  | startsWith, before, _ => before = []
  | endsWith, _, after => after = []
  | _, _, _ => False

theorem includes_iff {part text : List Char} : includes part text = true ↔ part <:+: text := by
  induction text with
  | nil => simp [includes]
  | cons c rest ih => simp [includes, ih, List.infix_cons_iff]

theorem acceptsText_iff {operator : Operator} {text actual : String}
    (one : operator.takesText = true) (plain : operator.isNegated = false) :
    acceptsText operator text actual = true ↔ ∃ before after,
      operator.Allows before after ∧ actual.toList = before ++ text.toList ++ after := by
  cases operator with
  | equals => simp [acceptsText, Operator.Allows, String.toList_inj]
  | contains =>
    simp only [acceptsText, Operator.Allows, includes_iff, true_and]
    exact exists_congr fun before => exists_congr fun after => eq_comm
  | startsWith =>
    simp only [acceptsText, Operator.Allows, List.isPrefixOf_iff_prefix]
    constructor
    · rintro ⟨after, same⟩
      exact ⟨[], after, rfl, same.symm⟩
    · rintro ⟨before, after, rfl, same⟩
      exact ⟨after, same.symm⟩
  | endsWith =>
    simp only [acceptsText, Operator.Allows, List.isSuffixOf_iff_suffix]
    constructor
    · rintro ⟨before, same⟩
      exact ⟨before, [], rfl, by rw [List.append_nil, same]⟩
    · rintro ⟨before, after, rfl, same⟩
      exact ⟨before, by rw [same, List.append_nil]⟩
  | notEquals | notContains => cases plain
  | _ => cases one

/-- The text stands where the operator looks for it, with the small letters that it has on its own.
-/
def Operator.FindsForm (operator : Operator) (text actual : String) : Prop :=
  ∃ before after, operator.Allows before after ∧
    actual.toList = before ++ text.toList ++ after ∧ KeepsForm before text.toList after

theorem findsForm_of_equals {text actual : String}
    (accepted : acceptsText .equals text actual = true) :
    Operator.equals.FindsForm text actual := by
  obtain rfl : actual = text := eq_of_beq accepted
  exact ⟨[], [], ⟨rfl, rfl⟩, by simp, keepsForm_alone _⟩

section Finding

variable {operator : Operator} {text actual : String} (one : operator.takesText = true)
  (plain : operator.isNegated = false)
include one plain

theorem acceptsText_lowercase (finds : operator.FindsForm text actual) :
    acceptsText operator (lowercase text) (lowercase actual) = true := by
  obtain ⟨before, after, allowed, same, keeps⟩ := finds
  refine (acceptsText_iff one plain).mpr ⟨lowerBetween [] before (text.toList ++ after),
    lowerFrom (text.toList.reverse ++ before.reverse) after, ?_, ?_⟩
  · cases operator with
    | equals =>
      obtain ⟨rfl, rfl⟩ := allowed
      exact ⟨rfl, rfl⟩
    | contains => trivial
    | startsWith =>
      obtain rfl : before = [] := allowed
      rfl
    | endsWith =>
      obtain rfl : after = [] := allowed
      rfl
    | _ => exact allowed.elim
  · rw [lowercase, lowercase, String.toList_ofList, String.toList_ofList, same, lowerChars_append,
      keeps]

theorem findsForm_of_not_mem (absent : 'Σ' ∉ text.toList)
    (accepted : acceptsText operator text actual = true) : operator.FindsForm text actual := by
  obtain ⟨before, after, allowed, same⟩ := (acceptsText_iff one plain).mp accepted
  exact ⟨before, after, allowed, same, keepsForm_of_not_mem absent⟩

/-- At an end of a text there is one place to find something, so what is found has its form. -/
theorem findsForm_of_lowercase (edge : operator = .startsWith ∨ operator = .endsWith)
    (accepted : acceptsText operator text actual = true)
    (lowered : acceptsText operator (lowercase text) (lowercase actual) = true) :
    operator.FindsForm text actual := by
  obtain ⟨before, after, allowed, same⟩ := (acceptsText_iff one plain).mp accepted
  obtain ⟨before', after', allowed', same'⟩ := (acceptsText_iff one plain).mp lowered
  rw [lowercase, lowercase, String.toList_ofList, String.toList_ofList, same,
    lowerChars_append] at same'
  refine ⟨before, after, allowed, same, ?_⟩
  -- Both forms are of one length, so what stands on the open side is cut off at one place.
  have long : (lowerBetween before.reverse text.toList after).length =
      (lowerChars text.toList).length := by
    rw [lowerChars_eq_lowerBetween]
    exact length_lowerBetween ..
  obtain rfl | rfl := edge
  · obtain rfl : before = [] := allowed
    obtain rfl : before' = [] := allowed'
    exact List.append_inj_left same' long
  · obtain rfl : after = [] := allowed
    obtain rfl : after' = [] := allowed'
    simp only [lowerFrom_nil, List.append_nil] at same'
    exact List.append_inj_right' same' long

end Finding

namespace Comparison

variable {field : Field} {operator : Operator} {value : Json} {strict : Record → Bool}

theorem accepts_literal_iff {caseSensitive : Bool} {sought : String} {record : Record}
    (plain : operator.isNegated = false) :
    (Test.literal field operator caseSensitive sought).accepts record = true ↔
      ∃ actual, record.text? field = some actual ∧
        acceptsText operator sought (comparable caseSensitive actual) = true := by
  rw [Test.accepts]
  cases record.text? field <;> simp [plain]

theorem predicate?_string {matching : Matching} {sought : String} (text : field.kind = .text)
    (one : operator.takesText = true) (supported : field.supports operator = true) :
    predicate? matching field operator (.string sought) =
      some (Test.literal field operator matching.caseSensitive
        (comparable matching.caseSensitive sought)).accepts :=
  predicate?_text text one supported

theorem predicate?_ignoringCase_text (text : field.kind = .text) (one : operator.takesText = true)
    (plain : operator.isNegated = false)
    (made : predicate? ⟨true⟩ field operator value = some strict) :
    ∃ sought lenient, value = .string sought ∧
      predicate? ⟨false⟩ field operator value = some lenient ∧
      ∀ record, strict record = true → ∃ actual, record.text? field = some actual ∧
        acceptsText operator sought actual = true ∧
        (lenient record = true ↔
          acceptsText operator (lowercase sought) (lowercase actual) = true) := by
  have supported := supports_of_predicate? made
  match value with
  | .string sought =>
    rw [predicate?_string text one supported] at made
    cases made
    refine ⟨sought, _, rfl, predicate?_string text one supported, fun record passed => ?_⟩
    obtain ⟨actual, given, accepted⟩ := (accepts_literal_iff plain).mp passed
    refine ⟨actual, given, accepted, (accepts_literal_iff plain).trans ?_⟩
    simp [given, comparable]
  | .null | .bool _ | .integer _ | .double _ | .array _ | .object _ =>
    rw [predicate?_text text one supported] at made
    cases made

theorem predicate?_ignoringCase_equals (text : field.kind = .text)
    (made : predicate? ⟨true⟩ field .equals value = some strict) :
    ∃ lenient, predicate? ⟨false⟩ field .equals value = some lenient ∧
      ∀ record, strict record = true → lenient record = true := by
  obtain ⟨sought, lenient, rfl, compiled, each⟩ :=
    predicate?_ignoringCase_text text rfl rfl made
  refine ⟨lenient, compiled, fun record passed => ?_⟩
  obtain ⟨actual, given, accepted, lowered⟩ := each record passed
  exact lowered.mpr (acceptsText_lowercase rfl rfl (findsForm_of_equals accepted))

theorem exists_mapM_any {narrow wide : Json → Option (Record → Bool)}
    (each : ∀ item passes, narrow item = some passes →
      ∃ others, wide item = some others ∧ ∀ record, passes record = true → others record = true)
    {items : List Json} {all : List (Record → Bool)} (made : items.mapM narrow = some all) :
    ∃ others, items.mapM wide = some others ∧ ∀ record,
      (all.any fun one => one record) = true → (others.any fun one => one record) = true := by
  induction items generalizing all with
  | nil =>
    cases made
    exact ⟨[], rfl, fun _ passed => passed⟩
  | cons item rest ih =>
    rw [List.mapM_cons] at made
    obtain ⟨passes, first, made⟩ := Option.bind_eq_some_iff.mp made
    obtain ⟨later, compiled, made⟩ := Option.bind_eq_some_iff.mp made
    cases made
    obtain ⟨wider, read, more⟩ := each item passes first
    obtain ⟨others, reads, mores⟩ := ih compiled
    refine ⟨wider :: others, ?_, fun record passed => ?_⟩
    · rw [List.mapM_cons, read, reads]
      rfl
    · rw [List.any_cons, Bool.or_eq_true] at passed ⊢
      exact passed.imp (more record) (mores record)

/-- What passes with the letter case passes without it, if whole texts are compared or the text that
is looked for has no capital sigma; and otherwise if it has its own small letters where it stands.
At an end of a text this is needed, too. -/
theorem ignoringCase_widens (text : field.kind = .text)
    (widening : operator ∈ [Operator.equals, .contains, .startsWith, .endsWith, .isIn])
    (made : predicate? ⟨true⟩ field operator value = some strict) :
    ∃ lenient, predicate? ⟨false⟩ field operator value = some lenient ∧
      ∀ record, strict record = true →
        (operator = .equals ∨ operator = .isIn → lenient record = true) ∧
        ∀ sought, value = .string sought →
          ('Σ' ∉ sought.toList → lenient record = true) ∧
          ∃ actual, record.text? field = some actual ∧
            (operator.FindsForm sought actual → lenient record = true) ∧
            (operator = .startsWith ∨ operator = .endsWith → lenient record = true →
              operator.FindsForm sought actual) := by
  by_cases several : operator = .isIn
  · subst several
    obtain ⟨items, each, rfl, inhabited, compiled, rfl⟩ :=
      (predicate?_isIn_iff (supports_of_predicate? made)).mp made
    obtain ⟨others, read, wider⟩ := exists_mapM_any
      (fun item passes => predicate?_ignoringCase_equals text) compiled
    refine ⟨fun record => others.any fun one => one record,
      (predicate?_isIn_iff (supports_of_predicate? made)).mpr
        ⟨items, others, rfl, inhabited, read, rfl⟩, fun record passed => ?_⟩
    exact ⟨fun _ => wider record passed, nofun⟩
  · have one : operator.takesText = true := by
      revert widening several
      cases operator <;> decide
    have plain : operator.isNegated = false := by
      revert widening
      cases operator <;> decide
    obtain ⟨sought, lenient, rfl, compiled, each⟩ :=
      predicate?_ignoringCase_text text one plain made
    refine ⟨lenient, compiled, fun record passed => ?_⟩
    obtain ⟨actual, given, accepted, lowered⟩ := each record passed
    have finds (found : operator.FindsForm sought actual) : lenient record = true :=
      lowered.mpr (acceptsText_lowercase one plain found)
    refine ⟨?_, ?_⟩
    · rintro (rfl | rfl)
      · exact finds (findsForm_of_equals accepted)
      · exact absurd rfl several
    · rintro _ ⟨⟩
      exact ⟨fun absent => finds (findsForm_of_not_mem one plain absent accepted), actual, given,
        finds, fun edge passed =>
          findsForm_of_lowercase one plain edge accepted (lowered.mp passed)⟩

theorem ignoringCase_widens_timeout :
    let record : Record := ⟨"app.log", 1, .utc ⟨0, 0⟩, "info", "Connection Timeout", "", none, none⟩
    ∃ lenient, predicate? ⟨false⟩ .message .contains (.string "Timeout") = some lenient ∧
      lenient record = true := by
  intro record
  have made : predicate? ⟨true⟩ .message .contains (.string "Timeout") =
      some (Test.literal .message .contains true "Timeout").accepts := rfl
  obtain ⟨lenient, compiled, each⟩ := ignoringCase_widens (by decide) (by decide) made
  obtain ⟨-, found⟩ := each record (by decide)
  obtain ⟨plain, -⟩ := found "Timeout" rfl
  exact ⟨lenient, compiled, plain (by decide)⟩

/-- In front of another letter the sigma is no final one, but at the end of the text that is looked
for it is, so the word is found with the letter case only. -/
theorem ignoringCase_misses_word :
    let record : Record := ⟨"app.log", 1, .utc ⟨0, 0⟩, "info", "ΟΔΟΣΑ", "", none, none⟩
    ∃ strict lenient, predicate? ⟨true⟩ .message .contains (.string "ΟΔΟΣ") = some strict ∧
      predicate? ⟨false⟩ .message .contains (.string "ΟΔΟΣ") = some lenient ∧
      strict record = true ∧ lenient record = false := by
  intro record
  have final : lowerChars ['Ο', 'Δ', 'Ο', 'Σ'] = ['ο', 'δ', 'ο', 'ς'] := by
    set_option maxRecDepth 1500 in decide
  have inner : lowerChars ['Ο', 'Δ', 'Ο', 'Σ', 'Α'] = ['ο', 'δ', 'ο', 'σ', 'α'] := by
    set_option maxRecDepth 1500 in decide
  refine ⟨(Test.literal .message .contains true "ΟΔΟΣ").accepts,
    (Test.literal .message .contains false (lowercase "ΟΔΟΣ")).accepts, rfl, rfl, by decide, ?_⟩
  change includes (lowercase "ΟΔΟΣ").toList (lowercase "ΟΔΟΣΑ").toList = false
  simp only [lowercase, String.toList_ofList]
  change includes (lowerChars ['Ο', 'Δ', 'Ο', 'Σ']) (lowerChars ['Ο', 'Δ', 'Ο', 'Σ', 'Α']) = false
  rw [final, inner]
  rfl

end Comparison

end LogSieve
