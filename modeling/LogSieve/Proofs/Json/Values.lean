import LogSieve.Proofs.Json.Tokens
import LogSieve.Proofs.Traversal

/-! Values are read as they were written. A value is written with its items or fields between
commas and with gaps around them; reading takes exactly that text, if the brackets do not stand too
deep, its numbers are integers and its fields are in order. -/

namespace LogSieve.Json

/-! ### Lists and objects -/

def separated (gap : List Char) : Bool → List (List Char) → List Char
  | _, [] => []
  | first, text :: texts =>
    (if first then [] else [',']) ++ (gap ++ (text ++ separated gap false texts))

def Opens (text : List Char) : Prop :=
  ∃ c rest, text = c :: rest ∧ isGap c = false ∧ c ≠ ']'

theorem opens_cons {c : Char} (rest : List Char)
    (plain : isGap c = false ∧ c ≠ ']' := by decide) : Opens (c :: rest) :=
  ⟨c, rest, rfl, plain⟩

theorem Opens.append {text : List Char} (opens : Opens text) (rest : List Char) :
    Opens (text ++ rest) := by
  obtain ⟨c, others, rfl, plain⟩ := opens
  exact ⟨c, others ++ rest, rfl, plain⟩

theorem length_le_separated (gap : List Char) (first : Bool) {texts : List (List Char)}
    (each : ∀ text ∈ texts, Opens text) : texts.length ≤ (separated gap first texts).length := by
  induction texts generalizing first with
  | nil => exact Nat.le_refl 0
  | cons text texts ih =>
    obtain ⟨c, rest, rfl, -⟩ := each text List.mem_cons_self
    have later := ih false fun other member => each other (List.mem_cons_of_mem _ member)
    simp only [separated, List.length_append, List.length_cons]
    omega

theorem ends_separated (gap : List Char) {close : List Char} (blank : IsGap close)
    (texts : List (List Char))
    {mark : Char} {rest : List Char} (plain : Ends (mark :: rest)) :
    Ends (separated gap false texts ++ (close ++ mark :: rest)) := by
  cases texts with
  | nil => exact ends_of_isGap blank plain
  | cons text texts => exact ends_cons _

section Lists

variable {gap close : List Char}

theorem nextItem_open (blank : IsGap gap) (first : Bool) {text : List Char} (opens : Opens text) :
    nextItem first ((if first then [] else [',']) ++ (gap ++ text)) = .ok (true, text) := by
  obtain ⟨c, rest, rfl, solid, inside⟩ := opens
  have skipped : skipGap (gap ++ c :: rest) = c :: rest := by
    rw [skipGap_append blank, skipGap_cons rest solid]
  cases first with
  | true =>
    rw [if_pos rfl, List.nil_append, nextItem, skipped]
    split
    · contradiction
    · next same => exact absurd (List.cons.inj same).1 inside
    · next same => rw [if_pos rfl, same]
  | false =>
    rw [if_neg Bool.false_ne_true, List.singleton_append, nextItem, skipGap_cons _ (by decide)]
    split
    · contradiction
    · next same => exact absurd (List.cons.inj same).1 (by decide)
    · next same =>
      cases same
      rw [if_neg Bool.false_ne_true, if_pos rfl, skipped]
      split
      · contradiction
      · next same => exact absurd (List.cons.inj same).1 inside
      · rfl

theorem nextItem_close (blank : IsGap close) (first : Bool) (rest : List Char) :
    nextItem first (close ++ ']' :: rest) = .ok (false, ']' :: rest) := by
  rw [nextItem, skipGap_append blank, skipGap_cons rest (by decide)]
  rfl

theorem items_separated {item : Step α} {text : α → List Char} (blank : IsGap gap)
    (blankEnd : IsGap close) {list : List α}
    (each : ∀ x ∈ list, Opens (text x) ∧ Reads item (text x) x) (rest : List Char) {steps : Nat}
    (enough : list.length < steps) (first : Bool) :
    items item steps first (separated gap first (list.map text) ++ (close ++ ']' :: rest)) =
      .ok (list, ']' :: rest) := by
  induction list generalizing steps first with
  | nil =>
    obtain ⟨steps, rfl⟩ := Nat.exists_eq_add_of_lt enough
    rw [List.map_nil, separated, List.nil_append, items, nextItem_close blankEnd]
    rfl
  | cons x list ih =>
    obtain ⟨steps, rfl⟩ := Nat.exists_eq_succ_of_ne_zero (Nat.ne_of_gt (Nat.zero_lt_of_lt enough))
    obtain ⟨opens, reads⟩ := each x List.mem_cons_self
    have later := ih (fun y member => each y (List.mem_cons_of_mem x member))
      (Nat.lt_of_succ_lt_succ enough) false
    have taken := reads [] _ isGap_nil (ends_separated gap blankEnd (list.map text)
      (ends_cons (c := ']') rest))
    have found := nextItem_open blank first
      (opens.append (separated gap false (list.map text) ++ (close ++ ']' :: rest)))
    rw [List.map_cons, separated, List.append_assoc, List.append_assoc, List.append_assoc, items]
    exact bind_eq_ok.mpr ⟨_, found, bind_eq_ok.mpr ⟨_, taken, bind_eq_ok.mpr ⟨_, later, rfl⟩⟩⟩

theorem closeList_bracket (rest : List Char) : closeList (']' :: rest) = .ok rest := by
  rw [closeList, skipGap_cons rest (by decide)]
  rfl

def listText (gap close : List Char) (texts : List (List Char)) : List Char :=
  '[' :: (separated gap true texts ++ (close ++ [']']))

theorem items_listText {item : Step α} {text : α → List Char} (blank : IsGap gap)
    (blankEnd : IsGap close) {list : List α}
    (each : ∀ x ∈ list, Opens (text x) ∧ Reads item (text x) x) (rest : List Char) :
    ∃ inside, listText gap close (list.map text) ++ rest = '[' :: inside ∧
      items item (inside.length + 1) true inside = .ok (list, ']' :: rest) := by
  refine ⟨separated gap true (list.map text) ++ (close ++ ']' :: rest), ?_, ?_⟩
  · simp [listText]
  · have enough := length_le_separated gap true
      (List.forall_mem_map.mpr fun x member => (each x member).1)
    refine items_separated blank blankEnd each rest ?_ true
    rw [List.length_append]
    rw [List.length_map] at enough
    omega

end Lists

section Fields

variable {gap close inner : List Char}

def fieldText (inner : List Char) (name : String) (text : List Char) : List Char :=
  writeString name ++ ':' :: (inner ++ text)

theorem fieldText_append (name : String) (text rest : List Char) :
    fieldText inner name text ++ rest =
      '"' :: (name.toList.flatMap escapeChar ++ '"' :: ':' :: (inner ++ (text ++ rest))) := by
  rw [fieldText, List.append_assoc, writeString_append, List.cons_append, List.append_assoc]

theorem opens_fieldText (name : String) (text : List Char) : Opens (fieldText inner name text) := by
  rw [← List.append_nil (fieldText inner name text), fieldText_append]
  exact opens_cons _

theorem nextField_open (blank : IsGap gap) (first : Bool) (rest : List Char) :
    nextField first ((if first then [] else [',']) ++ (gap ++ '"' :: rest)) =
      .ok (true, '"' :: rest) := by
  have skipped : skipGap (gap ++ '"' :: rest) = '"' :: rest := by
    rw [skipGap_append blank, skipGap_cons rest (by decide)]
  cases first with
  | true =>
    rw [if_pos rfl, List.nil_append, nextField, skipped]
    rfl
  | false =>
    rw [if_neg Bool.false_ne_true, List.singleton_append, nextField, skipGap_cons _ (by decide)]
    split
    · contradiction
    · next same => exact absurd (List.cons.inj same).1 (by decide)
    · next same =>
      cases same
      rw [if_neg Bool.false_ne_true, if_pos rfl, skipped]
      rfl

theorem nextField_close (blank : IsGap close) (first : Bool) (rest : List Char) :
    nextField first (close ++ '}' :: rest) = .ok (false, '}' :: rest) := by
  rw [nextField, skipGap_append blank, skipGap_cons rest (by decide)]
  rfl

theorem colon_cons (rest : List Char) : colon (':' :: rest) = .ok rest := by
  rw [colon, skipGap_cons rest (by decide)]
  rfl

theorem closeObject_brace (rest : List Char) : closeObject ('}' :: rest) = .ok rest := by
  rw [closeObject, skipGap_cons rest (by decide)]
  rfl

def fieldTexts (inner : List Char) (text : Json → List Char) (fields : List (String × Json)) :
    List (List Char) :=
  fields.map fun field => fieldText inner field.1 (text field.2)

theorem fields_separated {value : Step Json} {text : Json → List Char} (blank : IsGap gap)
    (blankEnd : IsGap close) (blankInner : IsGap inner) {list : List (String × Json)}
    (each : ∀ field ∈ list, Reads value (text field.2) field.2) (rest : List Char) {steps : Nat}
    (enough : list.length < steps) (first : Bool) :
    fields value steps first
        (separated gap first (fieldTexts inner text list) ++ (close ++ '}' :: rest)) =
      .ok (list, '}' :: rest) := by
  induction list generalizing steps first with
  | nil =>
    obtain ⟨steps, rfl⟩ := Nat.exists_eq_add_of_lt enough
    rw [fieldTexts, List.map_nil, separated, List.nil_append, fields, nextField_close blankEnd]
    rfl
  | cons field list ih =>
    obtain ⟨steps, rfl⟩ := Nat.exists_eq_succ_of_ne_zero (Nat.ne_of_gt (Nat.zero_lt_of_lt enough))
    have later := ih (fun other member => each other (List.mem_cons_of_mem field member))
      (Nat.lt_of_succ_lt_succ enough) false
    have taken := each field List.mem_cons_self inner _ blankInner
      (ends_separated gap blankEnd (fieldTexts inner text list) (ends_cons (c := '}') rest))
    rw [fieldTexts, List.map_cons, ← fieldTexts, separated, List.append_assoc, List.append_assoc,
      List.append_assoc, fieldText_append, fields]
    exact bind_eq_ok.mpr ⟨_, nextField_open blank first _, bind_eq_ok.mpr
      ⟨_, quotedText_escaped field.1 _, bind_eq_ok.mpr ⟨_, colon_cons _, bind_eq_ok.mpr
        ⟨_, taken, bind_eq_ok.mpr ⟨_, later, rfl⟩⟩⟩⟩⟩

def objectText (gap close inner : List Char) (text : Json → List Char)
    (fields : List (String × Json)) : List Char :=
  '{' :: (separated gap true (fieldTexts inner text fields) ++ (close ++ ['}']))

end Fields

/-! ### Values -/

mutual

/-- The fields of every object in the value stand in the order of their names. -/
def Ordered : Json → Prop
  | null => True
  | bool _ => True
  | integer _ => True
  | double _ => True
  | string _ => True
  | array items => OrderedItems items
  | object fields => fields.Pairwise (fun first second => first.1 < second.1) ∧ OrderedFields fields

def OrderedItems : List Json → Prop
  | [] => True
  | item :: rest => Ordered item ∧ OrderedItems rest

def OrderedFields : List (String × Json) → Prop
  | [] => True
  | (_, value) :: rest => Ordered value ∧ OrderedFields rest

end

theorem insertField_of_forall_lt {name : String} {value : Json} {sorted : List (String × Json)}
    (behind : ∀ field ∈ sorted, field.1 < name) :
    insertField name value sorted = sorted ++ [(name, value)] := by
  induction sorted with
  | nil => rfl
  | cons field rest ih =>
    have before := behind field List.mem_cons_self
    have notFront : ¬ name < field.1 := fun front =>
      String.lt_irrefl _ (String.lt_trans before front)
    have notSame : name ≠ field.1 := fun same => String.lt_irrefl field.1 (same ▸ before)
    rw [insertField, if_neg notFront, if_neg notSame,
      ih fun other member => behind other (List.mem_cons_of_mem field member), List.cons_append]

theorem ofFields_of_pairwise {fields : List (String × Json)}
    (sorted : fields.Pairwise fun first second => first.1 < second.1) :
    ofFields fields = .object fields := by
  have kept : ∀ front, (front ++ fields).Pairwise (fun first second => first.1 < second.1) →
      fields.foldl (fun sorted field => insertField field.1 field.2 sorted) front =
        front ++ fields := by
    clear sorted
    induction fields with
    | nil => exact fun front _ => (List.append_nil front).symm
    | cons field rest ih =>
      intro front sorted
      have behind : ∀ other ∈ front, other.1 < field.1 := fun other member =>
        (List.pairwise_append.mp sorted).2.2 other member field List.mem_cons_self
      rw [List.foldl_cons, insertField_of_forall_lt behind, ih, List.append_assoc,
        List.singleton_append]
      rwa [List.append_assoc, List.singleton_append]
  exact congrArg Json.object (kept [] sorted)

theorem valueWith_gap {gap : List Char} (blank : IsGap gap) (inside : Option (Step Json))
    (text : List Char) : valueWith inside (gap ++ text) = valueWith inside text := by
  rw [valueWith, valueWith, skipGap_append blank]

section Values

variable {gap close inner : List Char} {inside : Step Json}

theorem reads_word (word : Option (Step Json)) :
    Reads (valueWith word) ['n', 'u', 'l', 'l'] .null ∧
      ∀ value, Reads (valueWith word) (writeBool value) (.bool value) := by
  refine ⟨fun gap rest blank _ => ?_, fun value gap rest blank _ => ?_⟩
  · rw [valueWith_gap blank]
    exact bind_eq_ok.mpr ⟨rest, word_append ['u', 'l', 'l'] rest, rfl⟩
  · rw [valueWith_gap blank]
    cases value with
    | true => exact bind_eq_ok.mpr ⟨rest, word_append ['r', 'u', 'e'] rest, rfl⟩
    | false => exact bind_eq_ok.mpr ⟨rest, word_append ['a', 'l', 's', 'e'] rest, rfl⟩

theorem reads_string (word : Option (Step Json)) (text : String) :
    Reads (valueWith word) (writeString text) (.string text) := by
  intro gap rest blank _
  rw [valueWith_gap blank, writeString_append]
  exact bind_eq_ok.mpr ⟨_, quotedText_escaped text rest, rfl⟩

theorem valueWith_digit (word : Option (Step Json)) {c : Char} (digit : c.isDigit = true)
    (rest : List Char) :
    valueWith word (c :: rest) =
      numeral false (c :: rest) >>= fun found => .ok (found.1.toJson, found.2) := by
  rw [valueWith, skipGap_cons rest (isGap_of_isDigit digit)]
  split
  · contradiction
  · next same => cases same; exact absurd digit (by decide)
  · next same => cases same; exact absurd digit (by decide)
  · next same => cases same; exact absurd digit (by decide)
  · next same => cases same; exact absurd digit (by decide)
  · next same => cases same; exact absurd digit (by decide)
  · next same => cases same; exact absurd digit (by decide)
  · next same => cases same; exact absurd digit (by decide)
  · next same =>
    cases same
    rw [if_pos digit]
    rfl

theorem reads_integer (word : Option (Step Json)) {n : Int} (fits : IntegerRange n) :
    Reads (valueWith word) (writeInteger n) (.integer n) := by
  intro gap rest blank ends
  obtain ⟨low, high⟩ := fits
  rw [valueWith_gap blank, writeInteger]
  split
  · next negative =>
    obtain ⟨taken, found⟩ :=
      numeral_toDigits true (show n.natAbs < 0x10000000000000000 by omega) ends
    have tail : numberTail true ⟨n.natAbs, taken, 0, rest⟩ = .ok (.negative n, rest) := by
      have inRange : ¬ (n.natAbs = 0 ∨ 0x8000000000000000 < n.natAbs) := by omega
      have same : -(n.natAbs : Int) = n := by omega
      rw [numberTail_of_ends ends rfl, if_neg (by decide), if_neg inRange, same]
    exact bind_eq_ok.mpr ⟨_, found.trans tail, rfl⟩
  · next natural =>
    obtain ⟨taken, found⟩ :=
      numeral_toDigits false (show n.natAbs < 0x10000000000000000 by omega) ends
    have tail : numberTail false ⟨n.natAbs, taken, 0, rest⟩ = .ok (.natural n.natAbs, rest) := by
      rw [numberTail_of_ends ends rfl, if_pos (by decide)]
    have same : (n.natAbs : Int) = n := by omega
    cases digits : Nat.toDigits 10 n.natAbs with
    | nil => exact absurd digits Nat.toDigits_ne_nil
    | cons c more =>
      have digit : c.isDigit = true :=
        Nat.isDigit_of_mem_toDigits (by decide) (by decide) (digits ▸ List.mem_cons_self)
      rw [digits, List.cons_append] at found
      rw [List.cons_append, valueWith_digit word digit, found, tail]
      exact congrArg (fun value => Except.ok (Json.integer value, rest)) same

theorem reads_array {text : Json → List Char} (blank : IsGap gap) (blankEnd : IsGap close)
    {list : List Json} (each : ∀ x ∈ list, Opens (text x) ∧ Reads inside (text x) x) :
    Reads (valueWith (some inside)) (listText gap close (list.map text)) (.array list) := by
  intro gap' rest blank' _
  obtain ⟨body, same, found⟩ := items_listText blank blankEnd each rest
  rw [valueWith_gap blank', same]
  exact bind_eq_ok.mpr ⟨_, found, bind_eq_ok.mpr ⟨_, closeList_bracket rest, rfl⟩⟩

theorem objectText_append (text : Json → List Char) (list : List (String × Json))
    (rest : List Char) :
    objectText gap close inner text list ++ rest =
      '{' :: (separated gap true (fieldTexts inner text list) ++ (close ++ '}' :: rest)) := by
  simp [objectText]

theorem length_lt_objectText (gap close inner : List Char) (text : Json → List Char)
    (list : List (String × Json))
    (rest : List Char) :
    list.length <
      (separated gap true (fieldTexts inner text list) ++ (close ++ '}' :: rest)).length + 1 := by
  have opens : ∀ written ∈ fieldTexts inner text list, Opens written :=
    List.forall_mem_map.mpr fun field _ => opens_fieldText field.1 (text field.2)
  have enough := length_le_separated gap true opens
  rw [List.length_append]
  rw [fieldTexts, List.length_map] at enough
  rw [fieldTexts]
  omega

theorem reads_object {text : Json → List Char} (blank : IsGap gap) (blankEnd : IsGap close)
    (blankInner : IsGap inner) {list : List (String × Json)}
    (sorted : list.Pairwise fun first second => first.1 < second.1)
    (each : ∀ field ∈ list, Reads inside (text field.2) field.2) :
    Reads (valueWith (some inside)) (objectText gap close inner text list) (.object list) := by
  intro gap' rest blank' _
  have enough := length_lt_objectText gap close inner text list rest
  have found := fields_separated blank blankEnd blankInner each rest enough true
  rw [valueWith_gap blank', objectText_append]
  refine bind_eq_ok.mpr ⟨_, found, bind_eq_ok.mpr ⟨_, closeObject_brace rest, ?_⟩⟩
  rw [ofFields_of_pairwise sorted]
  rfl

end Values

/-! ### Layouts -/

theorem opens_writeInteger (n : Int) : Opens (writeInteger n) := by
  rw [writeInteger]
  split
  · exact opens_cons _
  · cases digits : Nat.toDigits 10 n.natAbs with
    | nil => exact absurd digits Nat.toDigits_ne_nil
    | cons c more =>
      have digit : c.isDigit = true :=
        Nat.isDigit_of_mem_toDigits (by decide) (by decide) (digits ▸ List.mem_cons_self)
      exact opens_cons more ⟨isGap_of_isDigit digit, ne_of_isDigit digit⟩

theorem value_eq_valueWith (brackets : Nat) : ∃ inside, Json.value brackets = valueWith inside := by
  cases brackets with
  | zero => exact ⟨none, rfl⟩
  | succ brackets => exact ⟨some (Json.value brackets), rfl⟩

/-- A way of writing values: the texts of all values, and the gaps that it puts in front of an item
or a field, in front of a closing bracket and behind a colon. -/
structure Layout where
  text : Nat → Json → List Char
  gap : Nat → List Char
  closing : Nat → Bool → List Char
  inner : List Char
  isGap_gap : ∀ level, IsGap (gap level)
  isGap_closing : ∀ level empty, IsGap (closing level empty)
  isGap_inner : IsGap inner
  text_null : ∀ level, text level .null = ['n', 'u', 'l', 'l']
  text_bool : ∀ level value, text level (.bool value) = writeBool value
  text_integer : ∀ level n, text level (.integer n) = writeInteger n
  text_string : ∀ level value, text level (.string value) = writeString value
  text_array : ∀ level list, text level (.array list) =
    listText (gap (level + 1)) (closing level list.isEmpty) (list.map (text (level + 1)))
  text_object : ∀ level list, text level (.object list) =
    objectText (gap (level + 1)) (closing level list.isEmpty) inner (text (level + 1)) list

namespace Layout

variable (layout : Layout)

theorem opens_text (level : Nat) {value : Json} (exact : value.Exact) :
    Opens (layout.text level value) := by
  cases value with
  | null => rw [text_null]; exact opens_cons _
  | bool value => rw [text_bool]; cases value <;> exact opens_cons _
  | integer n => rw [text_integer]; exact opens_writeInteger n
  | double x => exact exact.elim
  | string text => rw [text_string]; exact opens_cons _
  | array list => rw [text_array]; exact opens_cons _
  | object list => rw [text_object]; exact opens_cons _

mutual

/-- A value is read as it is written, if its numbers are integers, its fields are in order and its
brackets do not stand too deep. -/
theorem reads_text (level brackets : Nat) :
    ∀ value : Json, value.Exact → value.Ordered → value.depth ≤ brackets →
      Reads (Json.value brackets) (layout.text level value) value
  | .null, _, _, _ => by
    obtain ⟨inside, same⟩ := value_eq_valueWith brackets
    rw [same, layout.text_null]
    exact (reads_word inside).1
  | .bool value, _, _, _ => by
    obtain ⟨inside, same⟩ := value_eq_valueWith brackets
    rw [same, layout.text_bool]
    exact (reads_word inside).2 value
  | .integer n, fits, _, _ => by
    obtain ⟨inside, same⟩ := value_eq_valueWith brackets
    rw [same, layout.text_integer]
    exact reads_integer inside fits
  | .double x, exact, _, _ => exact.elim
  | .string text, _, _, _ => by
    obtain ⟨inside, same⟩ := value_eq_valueWith brackets
    rw [same, layout.text_string]
    exact reads_string inside text
  | .array list, exact, ordered, shallow => by
    obtain ⟨fewer, rfl⟩ := Nat.exists_eq_add_of_lt (Nat.lt_of_lt_of_le (Nat.succ_pos _) shallow)
    have inner : depthItems list ≤ 0 + fewer := Nat.le_of_succ_le_succ shallow
    rw [layout.text_array]
    exact reads_array (layout.isGap_gap _) (layout.isGap_closing _ _)
      (reads_items (level + 1) (0 + fewer) list exact ordered inner)
  | .object list, exact, ordered, shallow => by
    obtain ⟨fewer, rfl⟩ := Nat.exists_eq_add_of_lt (Nat.lt_of_lt_of_le (Nat.succ_pos _) shallow)
    have inner : depthFields list ≤ 0 + fewer := Nat.le_of_succ_le_succ shallow
    rw [layout.text_object]
    exact reads_object (layout.isGap_gap _) (layout.isGap_closing _ _) layout.isGap_inner ordered.1
      (reads_fields (level + 1) (0 + fewer) list exact ordered.2 inner)

theorem reads_items (level brackets : Nat) :
    ∀ list : List Json, ExactItems list → OrderedItems list → depthItems list ≤ brackets →
      ∀ item ∈ list, Opens (layout.text level item) ∧
        Reads (Json.value brackets) (layout.text level item) item
  | [], _, _, _ => nofun
  | item :: rest, exact, ordered, shallow => by
    have first := reads_text level brackets item exact.1 ordered.1
      (Nat.le_trans (Nat.le_max_left _ _) shallow)
    have later := reads_items level brackets rest exact.2 ordered.2
      (Nat.le_trans (Nat.le_max_right _ _) shallow)
    exact List.forall_mem_cons.mpr ⟨⟨layout.opens_text level exact.1, first⟩, later⟩

theorem reads_fields (level brackets : Nat) :
    ∀ list : List (String × Json), ExactFields list → OrderedFields list →
      depthFields list ≤ brackets →
      ∀ field ∈ list, Reads (Json.value brackets) (layout.text level field.2) field.2
  | [], _, _, _ => nofun
  | (_, value) :: rest, exact, ordered, shallow => by
    have first := reads_text level brackets value exact.1 ordered.1
      (Nat.le_trans (Nat.le_max_left _ _) shallow)
    have later := reads_fields level brackets rest exact.2 ordered.2
      (Nat.le_trans (Nat.le_max_right _ _) shallow)
    exact List.forall_mem_cons.mpr ⟨first, later⟩

end

end Layout

/-! ### Values on lines of their own -/

section Indented

theorem writeIndentedItems_eq (level : Nat) (list : List Json) :
    writeIndentedItems level list =
      separated (breakLine level) false (list.map (writeIndented level)) := by
  induction list with
  | nil => rfl
  | cons item rest ih => simp [writeIndentedItems, separated, ih]

theorem writeIndentedFields_eq (level : Nat) (list : List (String × Json)) :
    writeIndentedFields level list =
      separated (breakLine level) false (fieldTexts [' '] (writeIndented level) list) := by
  induction list with
  | nil => rfl
  | cons field rest ih =>
    obtain ⟨name, value⟩ := field
    simp [writeIndentedFields, separated, fieldTexts, fieldText] at ih ⊢
    exact ih

def closing (level : Nat) (empty : Bool) : List Char := if empty then [] else breakLine level

theorem isGap_closing (level : Nat) (empty : Bool) : IsGap (closing level empty) := by
  cases empty with
  | true => exact isGap_nil
  | false => exact isGap_breakLine level

theorem writeIndented_array (level : Nat) (list : List Json) :
    writeIndented level (.array list) =
      listText (breakLine (level + 1)) (closing level list.isEmpty)
        (list.map (writeIndented (level + 1))) := by
  cases list with
  | nil => rfl
  | cons item rest =>
    simp [writeIndented, listText, separated, closing, writeIndentedItems_eq]

theorem writeIndented_object (level : Nat) (list : List (String × Json)) :
    writeIndented level (.object list) =
      objectText (breakLine (level + 1)) (closing level list.isEmpty) [' ']
        (writeIndented (level + 1)) list := by
  cases list with
  | nil => rfl
  | cons field rest =>
    obtain ⟨name, value⟩ := field
    simp [writeIndented, objectText, separated, closing, writeIndentedFields_eq, fieldTexts,
      fieldText]

def indented : Layout where
  text := writeIndented
  gap := breakLine
  closing := closing
  inner := [' ']
  isGap_gap := isGap_breakLine
  isGap_closing := isGap_closing
  isGap_inner := isGap_blank
  text_null _ := by rw [writeIndented]; rfl
  text_bool _ _ := by rw [writeIndented]
  text_integer _ _ := by rw [writeIndented]
  text_string _ _ := by rw [writeIndented]
  text_array := writeIndented_array
  text_object := writeIndented_object

theorem reads_writeIndented (level brackets : Nat) :
    ∀ value : Json, value.Exact → value.Ordered → value.depth ≤ brackets →
      Reads (Json.value brackets) (writeIndented level value) value :=
  indented.reads_text level brackets

end Indented

end LogSieve.Json
