import LogSieve.Proofs.Documents
import LogSieve.Proofs.Json.OneLine
import LogSieve.Proofs.Json.ReadValues
import LogSieve.Proofs.Json.Sameness
import LogSieve.Proofs.Spellings

/-! Terms and the criteria they stand for. The first two colons of a term divide it and blanks
around its parts are dropped, so a field and an operator are names without colons. Behind the second
colon a list, an object or a string can be written like in a document, and it is read back whatever
stands inside. A term that is shown leaves the quotes of a text away; such a term can be typed back
if the text needs no quotes. -/

namespace LogSieve

namespace Text

structure Unpadded (text : List Char) : Prop where
  begins : ∀ c ∈ text.head?, isBlank c = false
  ends : ∀ c ∈ text.getLast?, isBlank c = false

theorem length_trim_le (text : List Char) : (trim text).length ≤ text.length := by
  obtain ⟨before, after, same, -⟩ := around_trim text
  have split := congrArg List.length same
  rw [List.length_append, List.length_append] at split
  omega

theorem trim_eq_self_iff {text : List Char} : trim text = text ↔ Unpadded text := by
  constructor
  · intro kept
    have inner : ∀ inner, Around inner text → text.length ≤ inner.length := by
      intro inner around
      rw [← kept, around.trim_eq]
      exact length_trim_le inner
    refine ⟨fun c first => ?_, fun c last => ?_⟩
    · obtain ⟨rest, rfl⟩ := List.head?_eq_some_iff.mp first
      refine eq_false_of_ne_true fun blank => ?_
      have shorter := inner rest ⟨[c], [], by simp, by simpa using blank, nofun⟩
      rw [List.length_cons] at shorter
      omega
    · obtain ⟨front, rfl⟩ := List.getLast?_eq_some_iff.mp last
      refine eq_false_of_ne_true fun blank => ?_
      have shorter := inner front ⟨[], [c], by simp, nofun, by simpa using blank⟩
      rw [List.length_append, List.length_singleton] at shorter
      omega
  · rintro ⟨begins, ends⟩
    cases text with
    | nil => rfl
    | cons c rest =>
      have last : EndsSolid (c :: rest) :=
        ⟨_, _, (List.dropLast_append_getLast (List.cons_ne_nil c rest)).symm,
          ends _ (List.getLast?_eq_some_getLast _)⟩
      rw [trim, Time.trimLeft_cons rest (begins c rfl), last.trimRight_eq]

instance (text : List Char) : Decidable (Unpadded text) :=
  decidable_of_iff _ trim_eq_self_iff

theorem unpadded_trim (text : List Char) : Unpadded (trim text) :=
  trim_eq_self_iff.mp (trim_trim text)

end Text

open Text

namespace Criterion

/-! ### The parts of a term -/

theorem cutColon_append {front : List Char} (free : ':' ∉ front) (rest : List Char) :
    cutColon (front ++ ':' :: rest) = (front, some rest) := by
  induction front with
  | nil => rfl
  | cons c front ih =>
    rw [List.mem_cons, not_or] at free
    obtain ⟨other, later⟩ := free
    rw [List.cons_append, cutColon, if_neg (Ne.symm other), ih later]

theorem cutColon_eq_some {text front rest : List Char} (cut : cutColon text = (front, some rest)) :
    text = front ++ ':' :: rest ∧ ':' ∉ front := by
  induction text generalizing front with
  | nil => cases cut
  | cons c text ih =>
    rw [cutColon] at cut
    split_ifs at cut with colon
    · cases cut
      exact ⟨congrArg (· :: _) colon, List.not_mem_nil⟩
    · cases inner : cutColon text with
      | mk before behind =>
        rw [inner] at cut
        cases cut
        obtain ⟨same, free⟩ := ih inner
        refine ⟨congrArg (c :: ·) same, ?_⟩
        rw [List.mem_cons, not_or]
        exact ⟨Ne.symm colon, free⟩

/-- A text that can stand for a field or an operator in a term. -/
@[mk_iff]
structure IsName (name : String) : Prop where
  given : name ≠ ""
  free : ':' ∉ name.toList
  unpadded : Unpadded name.toList

instance (name : String) : Decidable (IsName name) :=
  decidable_of_iff _ (isName_iff name).symm

theorem toList_ne_nil {text : String} (given : text ≠ "") : text.toList ≠ [] :=
  mt String.toList_eq_nil_iff.mp given

theorem isName_trim {part : List Char} (free : ':' ∉ part) (given : trim part ≠ []) :
    IsName (String.ofList (trim part)) := by
  obtain ⟨before, after, same, -⟩ := around_trim part
  refine ⟨fun empty => given ?_, fun colon => free ?_, ?_⟩
  · rw [← String.toList_ofList (l := trim part), empty]
    rfl
  · rw [String.toList_ofList] at colon
    rw [same]
    simp [colon]
  · rw [String.toList_ofList]
    exact unpadded_trim part

section Names

variable {field operator : String} (named : IsName field) (named' : IsName operator)
include named named'

theorem parts?_names (shown : String) : parts? (field ++ ":" ++ operator ++ ":" ++ shown).toList =
    some (field.toList, operator.toList, shown.toList) := by
  have whole : (field ++ ":" ++ operator ++ ":" ++ shown).toList =
      field.toList ++ ':' :: (operator.toList ++ ':' :: shown.toList) := by
    simp
  rw [whole, parts?, cutColon_append named.free]
  simp only [cutColon_append named'.free]

theorem ofTerm_names {shown : String} (given : trim shown.toList ≠ []) :
    ofTerm (field ++ ":" ++ operator ++ ":" ++ shown) =
      .ok ⟨field, operator, operand (trim shown.toList)⟩ := by
  have fieldGiven : ¬ field.toList.isEmpty = true :=
    mt List.isEmpty_iff.mp (toList_ne_nil named.given)
  have operatorGiven : ¬ operator.toList.isEmpty = true :=
    mt List.isEmpty_iff.mp (toList_ne_nil named'.given)
  rw [ofTerm, parts?_names named named']
  simp only [trim_eq_self_iff.mpr named.unpadded, trim_eq_self_iff.mpr named'.unpadded]
  rw [if_neg fieldGiven, if_neg operatorGiven, if_neg (mt List.isEmpty_iff.mp given),
    String.ofList_toList, String.ofList_toList]

end Names

theorem parts_of_ofTerm {text : String} {criterion : Criterion}
    (accepted : ofTerm text = .ok criterion) :
    ∃ field operator value, parts? text.toList = some (field, operator, value) ∧
      IsName criterion.field ∧ IsName criterion.operator ∧ trim value ≠ [] ∧
        criterion.value = operand (trim value) := by
  unfold ofTerm at accepted
  split at accepted
  · cases accepted
  · next field operator value cut =>
    dsimp only at accepted
    split_ifs at accepted with noField noOperator noValue
    cases accepted
    refine ⟨field, operator, value, cut, ?_⟩
    unfold parts? at cut
    split at cut
    · next first rest divided =>
      split at cut
      · next second third divided' =>
        cases cut
        exact ⟨isName_trim (cutColon_eq_some divided).2 (mt List.isEmpty_iff.mpr noField),
          isName_trim (cutColon_eq_some divided').2 (mt List.isEmpty_iff.mpr noOperator),
          mt List.isEmpty_iff.mpr noValue, rfl⟩
      · cases cut
    · cases cut

/-! ### Operands -/

theorem operand_of_not_opens {text : List Char} (plain : ¬ Json.OpensDelimited text) :
    operand text = .string (String.ofList text) := by
  unfold operand
  dsimp only
  split
  · exact absurd ⟨_, _, rfl, .inl rfl⟩ plain
  · exact absurd ⟨_, _, rfl, .inr (.inl rfl)⟩ plain
  · exact absurd ⟨_, _, rfl, .inr (.inr rfl)⟩ plain
  · rfl

theorem operand_of_opens {text : List Char} (opens : Json.OpensDelimited text) :
    operand text = match Json.parse (String.ofList text) with
      | .ok found => found
      | .error _ => .string (String.ofList text) := by
  obtain ⟨c, rest, rfl, rfl | rfl | rfl⟩ := opens <;> rfl

theorem operand_of_parse {text : List Char} {found : Json} (opens : Json.OpensDelimited text)
    (parsed : Json.parse (String.ofList text) = .ok found) : operand text = found := by
  rw [operand_of_opens opens, parsed]

def IsUnread (text : List Char) : Prop :=
  Json.OpensDelimited text → ∀ found, Json.parse (String.ofList text) ≠ .ok found

theorem IsUnread.operand_eq {text : List Char} (unread : IsUnread text) :
    operand text = .string (String.ofList text) := by
  by_cases opens : Json.OpensDelimited text
  · rw [operand_of_opens opens]
    cases parsed : Json.parse (String.ofList text) with
    | ok found => exact absurd parsed (unread opens found)
    | error => rfl
  · exact operand_of_not_opens opens

theorem isUnread_or_parse (text : List Char) :
    IsUnread text ∨ Json.OpensDelimited text ∧
      Json.parse (String.ofList text) = .ok (operand text) := by
  by_cases unread : IsUnread text
  · exact .inl unread
  · simp only [IsUnread, not_forall, not_not] at unread
    obtain ⟨opens, found, parsed⟩ := unread
    exact .inr ⟨opens, (operand_of_parse opens parsed).symm ▸ parsed⟩

theorem unpadded_enclosed {first last : Char} (solid : isBlank first = false)
    (solid' : isBlank last = false) (inner : List Char) :
    Unpadded (first :: (inner ++ [last])) := by
  refine ⟨fun c same => ?_, fun c same => ?_⟩
  · cases same
    exact solid
  · rw [← List.cons_append, List.getLast?_concat] at same
    cases same
    exact solid'

theorem enclosed_write {value : Json} (delimited : value.IsDelimited) :
    Json.OpensDelimited (Json.write value) ∧ Unpadded (Json.write value) := by
  cases value with
  | string text =>
    have written : Json.write (.string text) =
        '"' :: (text.toList.flatMap Json.escapeChar ++ ['"']) := by
      simp [Json.write, Json.writeString, Json.writeChars]
    rw [written]
    exact ⟨⟨_, _, rfl, .inr (.inr rfl)⟩, unpadded_enclosed (by decide) (by decide) _⟩
  | array list =>
    rw [Json.write_array]
    exact ⟨⟨_, _, rfl, .inl rfl⟩, unpadded_enclosed (by decide) (by decide) _⟩
  | object list =>
    rw [Json.write_object]
    exact ⟨⟨_, _, rfl, .inr (.inl rfl)⟩, unpadded_enclosed (by decide) (by decide) _⟩
  | _ => exact delimited.elim

theorem operand_write {value : Json} (delimited : value.IsDelimited) (exact : value.Exact)
    (readable : value.Readable Json.bracketLimit) : operand (Json.write value) = value :=
  operand_of_parse (enclosed_write delimited).1
    (Json.whole_of_reads (Json.reads_write _ exact readable.ordered readable.shallow))

theorem ofTerm_delimited {criterion : Criterion} (named : IsName criterion.field)
    (named' : IsName criterion.operator) (delimited : criterion.value.IsDelimited)
    (exact : criterion.value.Exact) (readable : criterion.value.Readable Json.bracketLimit) :
    ofTerm (criterion.field ++ ":" ++ criterion.operator ++ ":" ++ criterion.value.compact) =
      .ok criterion := by
  obtain ⟨⟨c, rest, same, -⟩, unpadded⟩ := enclosed_write delimited
  have kept : trim criterion.value.compact.toList = Json.write criterion.value := by
    rw [Json.compact, String.toList_ofList, trim_eq_self_iff.mpr unpadded]
  have given : trim criterion.value.compact.toList ≠ [] := by
    rw [kept, same]
    exact List.cons_ne_nil _ _
  rw [ofTerm_names named named' given, kept, operand_write delimited exact readable]

/-- Every list, object or string can be the operand of a term, whatever colons, quotes, blanks or
control characters stand inside. -/
theorem ofTerm_written {criterion : Criterion} (named : IsName criterion.field)
    (named' : IsName criterion.operator) (delimited : criterion.value.IsDelimited)
    (storable : criterion.Storable) :
    ofTerm (criterion.field ++ ":" ++ criterion.operator ++ ":" ++ criterion.value.compact) =
      .ok criterion :=
  ofTerm_delimited named named' delimited storable.exact
    ⟨storable.ordered, Nat.le_trans storable.shallow (by decide)⟩

theorem ofTerm_written_nested :
    let value : Json := .array [.string " a:b \"\\\n", .object [("", .integer (-7)),
      ("k:1", .array [.null, .string "]"])], .bool true]
    let criterion : Criterion := ⟨"Message", "in", value⟩
    IsName "Message" ∧ IsName "in" ∧ value.IsDelimited ∧ criterion.Storable ∧
      ofTerm ("Message" ++ ":" ++ "in" ++ ":" ++ value.compact) = .ok criterion := by
  intro value criterion
  have field : IsName "Message" := by decide
  have operator : IsName "in" := by decide
  have storable : criterion.Storable :=
    ⟨⟨trivial, ⟨(by decide : Json.IntegerRange (-7)), ⟨trivial, trivial, trivial⟩, trivial⟩,
        trivial, trivial⟩,
      ⟨trivial, ⟨by decide, trivial, ⟨trivial, trivial, trivial⟩, trivial⟩, trivial, trivial⟩,
      by decide⟩
  exact ⟨field, operator, trivial, storable,
    @ofTerm_written criterion field operator trivial storable⟩

/-! ### Terms as they are shown -/

/-- A text that needs no quotes in a term: it is there, nothing of it is dropped, and it is not read
as a list, an object or a string. -/
structure IsBare (text : String) : Prop where
  given : text ≠ ""
  unpadded : Unpadded text.toList
  unread : IsUnread text.toList

theorem IsBare.ofTerm_names {field operator text : String} (bare : IsBare text)
    (named : IsName field) (named' : IsName operator) :
    ofTerm (field ++ ":" ++ operator ++ ":" ++ text) = .ok ⟨field, operator, .string text⟩ := by
  have kept := trim_eq_self_iff.mpr bare.unpadded
  have plain : operand text.toList = .string text := by
    rw [bare.unread.operand_eq, String.ofList_toList]
  rw [Criterion.ofTerm_names named named' (kept.symm ▸ toList_ne_nil bare.given), kept, plain]

theorem isBare_of_ofTerm {field operator text : String} (named : IsName field)
    (named' : IsName operator)
    (read : ofTerm (field ++ ":" ++ operator ++ ":" ++ text) =
      .ok ⟨field, operator, .string text⟩) : IsBare text := by
  obtain ⟨_, _, _, cut, -, -, given, same⟩ := parts_of_ofTerm read
  rw [parts?_names named named'] at cut
  cases cut
  -- A string that is read from the text would be shorter than the text.
  have unread : IsUnread (trim text.toList) := by
    intro opens found parsed
    rw [operand_of_parse opens parsed] at same
    rw [← same] at parsed
    have shorter := Json.length_lt_of_parse parsed
    rw [String.toList_ofList] at shorter
    exact absurd (length_trim_le text.toList) (Nat.not_le_of_lt shorter)
  rw [unread.operand_eq] at same
  have kept : text = String.ofList (trim text.toList) := Json.string.inj same
  have trimmed : trim text.toList = text.toList := by
    conv_rhs => rw [kept, String.toList_ofList]
  rw [trimmed] at given unread
  exact ⟨fun empty => given (by rw [empty]; rfl), trim_eq_self_iff.mp trimmed, unread⟩

theorem ofTerm_of_parse {criterion : Criterion} {text : List Char} (named : IsName criterion.field)
    (named' : IsName criterion.operator) (opens : Json.OpensDelimited text)
    (parsed : Json.parse (String.ofList text) = .ok criterion.value)
    (exact : criterion.value.Exact) (other : ∀ shown, criterion.value ≠ .string shown) :
    ofTerm criterion.term = .ok criterion := by
  have shown : operandText criterion.value = criterion.value.compact := by
    unfold operandText
    split
    · next text same => exact absurd same (other text)
    · rfl
  rw [term, shown]
  exact ofTerm_delimited named named'
    (Json.isDelimited_of_parse parsed (by rwa [String.toList_ofList])) exact
    (Json.readable_of_parse parsed)

/-- A criterion that was read from a term can be typed back as it is shown, but for a text that
needs its quotes; and a text that was typed without quotes needs none. -/
theorem ofTerm_term_iff {text : String} {criterion : Criterion}
    (accepted : ofTerm text = .ok criterion) (exact : criterion.value.Exact) :
    (ofTerm criterion.term = .ok criterion ↔
      ∀ shown, criterion.value = .string shown → IsBare shown) ∧
    ∀ field operator value, parts? text.toList = some (field, operator, value) →
      (trim value).head? ≠ some '"' → ofTerm criterion.term = .ok criterion := by
  obtain ⟨field, operator, value, cut, named, named', given, read⟩ := parts_of_ofTerm accepted
  have back : ofTerm criterion.term = .ok criterion ↔
      ∀ shown, criterion.value = .string shown → IsBare shown := by
    by_cases plain : ∃ shown, criterion.value = .string shown
    · obtain ⟨shown, same⟩ := plain
      obtain ⟨_, _, _⟩ := criterion
      cases same
      constructor
      · rintro typed _ ⟨⟩
        exact isBare_of_ofTerm named named' typed
      · exact fun bare => (bare shown rfl).ofTerm_names named named'
    · have other : ∀ shown, criterion.value ≠ .string shown := not_exists.mp plain
      refine ⟨fun _ shown same => absurd same (other shown), fun _ => ?_⟩
      obtain unread | ⟨opens, parsed⟩ := isUnread_or_parse (trim value)
      · exact absurd (read.trans unread.operand_eq) (other _)
      · exact ofTerm_of_parse named named' opens (read.symm ▸ parsed) exact other
  refine ⟨back, fun _ _ _ cut' unquoted => back.mpr fun shown same => ?_⟩
  rw [cut] at cut'
  cases cut'
  obtain unread | ⟨opens, parsed⟩ := isUnread_or_parse (trim value)
  · rw [read, unread.operand_eq] at same
    cases same
    refine ⟨fun empty => given ?_, ?_, ?_⟩
    · rw [← String.toList_ofList (l := trim value), empty]
      rfl
    · rw [String.toList_ofList]
      exact unpadded_trim value
    · rw [String.toList_ofList]
      exact unread
  · -- A string is read from a quote.
    rw [← read, same] at parsed
    obtain ⟨front, quote, -⟩ := Json.quote_of_parse parsed
    rw [String.toList_ofList, opens.skipGap_eq] at quote
    rw [quote] at unquoted
    exact absurd rfl unquoted

theorem ofTerm_term_iff_range :
    let text := "ts" ++ ":" ++ "between" ++ ":" ++ " [ \"a:b\" , \"c\" ] "
    let criterion : Criterion := ⟨"ts", "between", .array [.string "a:b", .string "c"]⟩
    ofTerm text = .ok criterion ∧ criterion.value.Exact ∧
      ofTerm criterion.term = .ok criterion := by
  intro text criterion
  have named : IsName "ts" := by decide
  have named' : IsName "between" := by decide
  have exact : criterion.value.Exact := ⟨trivial, trivial, trivial⟩
  have read : criterion.value = operand (trim " [ \"a:b\" , \"c\" ] ".toList) :=
    (Json.same_iff_eq exact).mp (by decide +kernel)
  have accepted : ofTerm text = .ok criterion := by
    rw [ofTerm_names named named' (by decide), ← read]
  exact ⟨accepted, exact, (ofTerm_term_iff accepted exact).1.mpr nofun⟩

/-- Without its quotes the empty text is no operand, and a text that reads like a list becomes one.
-/
theorem quoted_not_typed_back :
    let empty : Criterion := ⟨"Message", "contains", .string ""⟩
    let listed : Criterion := ⟨"Message", "equals", .string "[1]"⟩
    ofTerm "Message:contains:\"\"" = .ok empty ∧ empty.value.Exact ∧
      ofTerm empty.term = .error (.emptyPart "value" "Message:contains:") ∧
      ofTerm "Message:equals:\"[1]\"" = .ok listed ∧ listed.value.Exact ∧
      ofTerm listed.term = .ok ⟨"Message", "equals", .array [.integer 1]⟩ := by
  intro empty listed
  have named : IsName "Message" := by decide
  have contains : IsName "contains" := by decide
  have equals : IsName "equals" := by decide
  have written : "Message:contains:\"\"" =
      "Message" ++ ":" ++ "contains" ++ ":" ++ empty.value.compact := by decide
  have written' : "Message:equals:\"[1]\"" =
      "Message" ++ ":" ++ "equals" ++ ":" ++ listed.value.compact := by decide
  have shown : empty.term = "Message:contains:" := by decide
  have shown' : listed.term = "Message" ++ ":" ++ "equals" ++ ":" ++ "[1]" := rfl
  refine ⟨?_, trivial, ?_, ?_, trivial, ?_⟩
  · rw [written]
    exact @ofTerm_delimited empty named contains trivial trivial
      ⟨trivial, Nat.zero_le _⟩
  · rw [shown]
    rfl
  · rw [written']
    exact @ofTerm_delimited listed named equals trivial trivial
      ⟨trivial, Nat.zero_le _⟩
  · rw [shown', ofTerm_names named equals (by decide)]
    rfl

end Criterion

end LogSieve
