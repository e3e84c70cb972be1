import Mathlib.Order.Basic
import Mathlib.Data.String.Basic
import LogSieve.Proofs.Json.Values

/-! What can come out of a text. A value that has been read holds the fields of its objects in
order and no more brackets than the reader allows, whatever the text was, so it can be written and
read again. A list, an object or a string comes of a text that begins like one, and a string is
shorter than the text it was read from. -/

namespace LogSieve.Json

/-! ### Values of a reader -/

structure Readable (brackets : Nat) (value : Json) : Prop where
  ordered : value.Ordered
  shallow : value.depth ≤ brackets

def IsDelimited : Json → Prop
  | .string _ | .array _ | .object _ => True
  | _ => False

theorem readable_of_not_delimited {value : Json} (plain : ¬ value.IsDelimited) (brackets : Nat) :
    Readable brackets value := by
  cases value with
  | null | bool | integer | double => exact ⟨trivial, Nat.zero_le _⟩
  | string | array | object => exact absurd trivial plain

theorem readable_array {brackets : Nat} {list : List Json}
    (each : ∀ item ∈ list, Readable brackets item) : Readable (brackets + 1) (.array list) := by
  have inner : OrderedItems list ∧ depthItems list ≤ brackets := by
    induction list with
    | nil => exact ⟨trivial, Nat.zero_le _⟩
    | cons item rest ih =>
      obtain ⟨first, later⟩ := List.forall_mem_cons.mp each
      obtain ⟨ordered, shallow⟩ := ih later
      exact ⟨⟨first.ordered, ordered⟩, Nat.max_le.mpr ⟨first.shallow, shallow⟩⟩
  exact ⟨inner.1, Nat.succ_le_succ inner.2⟩

theorem readable_object {brackets : Nat} {list : List (String × Json)}
    (sorted : list.Pairwise fun first second => first.1 < second.1)
    (each : ∀ field ∈ list, Readable brackets field.2) :
    Readable (brackets + 1) (.object list) := by
  have inner : OrderedFields list ∧ depthFields list ≤ brackets := by
    clear sorted
    induction list with
    | nil => exact ⟨trivial, Nat.zero_le _⟩
    | cons field rest ih =>
      obtain ⟨first, later⟩ := List.forall_mem_cons.mp each
      obtain ⟨ordered, shallow⟩ := ih later
      exact ⟨⟨first.ordered, ordered⟩, Nat.max_le.mpr ⟨first.shallow, shallow⟩⟩
  exact ⟨⟨sorted, inner.1⟩, Nat.succ_le_succ inner.2⟩

/-! ### Fields in order -/

theorem mem_insertField {name : String} {value : Json} {sorted : List (String × Json)}
    {field : String × Json} (member : field ∈ insertField name value sorted) :
    field = (name, value) ∨ field ∈ sorted := by
  induction sorted with
  | nil => exact .inl (List.mem_singleton.mp member)
  | cons first rest ih =>
    rw [insertField] at member
    split_ifs at member
    · exact List.mem_cons.mp member
    · exact (List.mem_cons.mp member).imp_right (List.mem_cons_of_mem first)
    · obtain rfl | later := List.mem_cons.mp member
      · exact .inr List.mem_cons_self
      · exact (ih later).imp_right (List.mem_cons_of_mem first)

theorem pairwise_insertField {name : String} {value : Json} {sorted : List (String × Json)}
    (pairwise : sorted.Pairwise fun first second => first.1 < second.1) :
    (insertField name value sorted).Pairwise fun first second => first.1 < second.1 := by
  induction sorted with
  | nil => exact List.pairwise_singleton _ _
  | cons first rest ih =>
    obtain ⟨behind, later⟩ := List.pairwise_cons.mp pairwise
    rw [insertField]
    split_ifs with front same
    · refine List.pairwise_cons.mpr ⟨fun field member => ?_, pairwise⟩
      obtain rfl | member := List.mem_cons.mp member
      · exact front
      · exact lt_trans front (behind field member)
    · subst same
      exact List.pairwise_cons.mpr ⟨behind, later⟩
    · refine List.pairwise_cons.mpr ⟨fun field member => ?_, ih later⟩
      obtain rfl | member := mem_insertField member
      · exact lt_of_le_of_ne (not_lt.mp front) (Ne.symm same)
      · exact behind field member

theorem ofFields_eq (fields : List (String × Json)) :
    ∃ sorted, ofFields fields = .object sorted ∧
      sorted.Pairwise (fun first second => first.1 < second.1) ∧
        ∀ field ∈ sorted, field ∈ fields := by
  refine ⟨_, rfl, List.foldlRecOn (motive := fun sorted : List (String × Json) =>
    sorted.Pairwise (fun first second => first.1 < second.1) ∧ ∀ field ∈ sorted, field ∈ fields)
    fields _ ⟨List.Pairwise.nil, nofun⟩ ?_⟩
  rintro sorted ⟨pairwise, known⟩ field given
  refine ⟨pairwise_insertField pairwise, fun other member => ?_⟩
  obtain rfl | member := mem_insertField member
  · exact given
  · exact known other member

/-! ### Steps of the reader -/

section Steps

variable {right : α → Prop} {item : Step α}

theorem items_gives (each : ∀ text, Gives (fun found => right found.1) (item text)) (steps : Nat)
    (first : Bool) (text : List Char) :
    Gives (fun found => ∀ x ∈ found.1, right x) (items item steps first text) := by
  induction steps generalizing first text with
  | zero => exact gives_error _
  | succ steps ih =>
    refine Gives.bind fun ⟨more, text⟩ _ => ?_
    dsimp only
    split
    · exact gives_ok nofun
    · refine Gives.bind fun ⟨head, text⟩ read => Gives.bind fun ⟨tail, text⟩ later => ?_
      exact gives_ok (List.forall_mem_cons.mpr ⟨each _ _ read, ih _ _ _ later⟩)

theorem fields_gives {right : Json → Prop} {value : Step Json}
    (each : ∀ text, Gives (fun found => right found.1) (value text)) (steps : Nat)
    (first : Bool) (text : List Char) :
    Gives (fun found => ∀ field ∈ found.1, right field.2) (fields value steps first text) := by
  induction steps generalizing first text with
  | zero => exact gives_error _
  | succ steps ih =>
    refine Gives.bind fun ⟨more, text⟩ _ => ?_
    dsimp only
    split
    · exact gives_ok nofun
    · refine Gives.bind fun ⟨name, text⟩ _ => Gives.bind fun text _ =>
        Gives.bind fun ⟨head, text⟩ read => Gives.bind fun ⟨tail, text⟩ later => ?_
      exact gives_ok (List.forall_mem_cons.mpr ⟨each _ _ read, ih _ _ _ later⟩)

theorem closeHex_gives (strict : Bool) (value : Nat) (half : Option Nat) (done rest : List Char) :
    Gives (fun found => found.2.length ≤ done.length + 1)
      (closeHex strict value half done rest) := by
  unfold closeHex
  refine Gives.ite (fun _ => gives_ok (Nat.le_succ _)) fun _ => ?_
  cases half with
  | none =>
    exact Gives.ite (fun _ => gives_error _) fun _ =>
      Gives.ite (fun _ => gives_ok (Nat.le_succ _)) fun _ => gives_ok (Nat.le_refl _)
  | some high => exact Gives.ite (fun _ => gives_ok (Nat.le_refl _)) fun _ => gives_error _

/-- Every escape stands for one character, so a string takes more of the text than it has
characters. -/
theorem stringBody_gives (strict : Bool) (mode : Mode) (done text : List Char) :
    Gives (fun found => found.1.length + found.2.length < done.length + text.length)
      (stringBody strict mode done text) := by
  fun_induction stringBody strict mode done text with
  | case2 done rest => exact gives_ok (by simp)
  | case3 done rest _ ih | case6 done rest ih | case14 _ done rest ih | case16 _ done rest ih =>
    exact ih.mono fun _ shorter => Nat.lt_succ_of_lt shorter
  | case5 done c rest _ _ _ ih | case7 done c rest _ d _ ih =>
    refine ih.mono fun _ shorter => ?_
    rw [List.length_cons] at shorter ⊢
    omega
  | case9 _ _ _ done c rest _ _ _ ih =>
    exact ih.mono fun _ shorter => Nat.lt_succ_of_lt shorter
  | case10 _ _ _ done c rest _ _ _ mode done' closed ih =>
    have grown : done'.length ≤ done.length + 1 := closeHex_gives _ _ _ _ _ _ closed
    refine ih.mono fun _ shorter => ?_
    rw [List.length_cons]
    omega
  | _ => exact gives_error _

theorem quotedText_gives (text : List Char) :
    Gives (fun found => found.1.toList.length + found.2.length < text.length)
      (quotedText text) := by
  refine Gives.bind fun ⟨chars, rest⟩ read => gives_ok ?_
  have shorter := stringBody_gives _ _ _ _ _ read
  rw [List.length_nil, Nat.zero_add] at shorter
  rwa [String.toList_ofList]

end Steps

/-! ### What a value is read from -/

def OpensDelimited (text : List Char) : Prop :=
  ∃ c rest, text = c :: rest ∧ (c = '[' ∨ c = '{' ∨ c = '"')

/-- What a value can have been read from: a list, an object or a string from a text that begins like
it, with its parts read in front of `rest`, and any other value from another text. -/
inductive ReadFrom (inside : Option (Step Json)) (text : List Char) : Json × List Char → Prop
  | plain {value : Json} {rest : List Char} (opens : ¬ OpensDelimited (skipGap text))
      (plain : ¬ value.IsDelimited) : ReadFrom inside text (value, rest)
  | string {front rest : List Char} {value : String} (opens : skipGap text = '"' :: front)
      (read : quotedText front = .ok (value, rest)) : ReadFrom inside text (.string value, rest)
  | array {front behind rest : List Char} {step : Step Json} {list : List Json}
      (opens : skipGap text = '[' :: front) (inner : inside = some step)
      (read : items step (front.length + 1) true front = .ok (list, behind)) :
      ReadFrom inside text (.array list, rest)
  | object {front behind rest : List Char} {step : Step Json} {list : List (String × Json)}
      (opens : skipGap text = '{' :: front) (inner : inside = some step)
      (read : fields step (front.length + 1) true front = .ok (list, behind)) :
      ReadFrom inside text (ofFields list, rest)

theorem not_opensDelimited {c : Char} {text rest : List Char} (begins : text = c :: rest)
    (other : c ≠ '[' ∧ c ≠ '{' ∧ c ≠ '"') : ¬ OpensDelimited text := by
  rintro ⟨d, behind, same, opens⟩
  rw [begins] at same
  cases same
  obtain rfl | rfl | rfl := opens
  · exact other.1 rfl
  · exact other.2.1 rfl
  · exact other.2.2 rfl

theorem OpensDelimited.skipGap_eq {text : List Char} (opens : OpensDelimited text) :
    skipGap text = text := by
  obtain ⟨c, rest, rfl, rfl | rfl | rfl⟩ := opens <;> rfl

theorem not_isDelimited_toJson (n : Numeral) : ¬ n.toJson.IsDelimited := by
  cases n <;> exact id

theorem valueWith_gives (inside : Option (Step Json)) (text : List Char) :
    Gives (ReadFrom inside text) (valueWith inside text) := by
  unfold valueWith
  split
  · exact gives_error _
  · next opens =>
    exact Gives.bind fun rest _ => gives_ok (.plain (not_opensDelimited opens (by decide)) id)
  · next opens =>
    exact Gives.bind fun rest _ => gives_ok (.plain (not_opensDelimited opens (by decide)) id)
  · next opens =>
    exact Gives.bind fun rest _ => gives_ok (.plain (not_opensDelimited opens (by decide)) id)
  · next opens =>
    exact Gives.bind fun ⟨n, rest⟩ _ => gives_ok
      (.plain (not_opensDelimited opens (by decide)) (not_isDelimited_toJson n))
  · next opens => exact Gives.bind fun ⟨value, rest⟩ read => gives_ok (.string opens read)
  · next front opens =>
    split
    · exact gives_error _
    · refine Gives.bind fun ⟨list, behind⟩ read => Gives.bind fun rest _ => ?_
      exact gives_ok (.array opens rfl read)
  · next front opens =>
    split
    · exact gives_error _
    · refine Gives.bind fun ⟨list, behind⟩ read => Gives.bind fun rest _ => ?_
      exact gives_ok (.object opens rfl read)
  · next c rest _ _ _ _ quote bracket brace opens =>
    refine Gives.ite (fun _ => Gives.bind fun ⟨n, rest⟩ _ => gives_ok ?_) fun _ => gives_error _
    exact .plain (not_opensDelimited opens ⟨bracket, brace, quote⟩) (not_isDelimited_toJson n)

theorem readable_of_readFrom {inside : Option (Step Json)} {brackets : Nat}
    (inner : ∀ step, inside = some step → ∃ fewer, brackets = fewer + 1 ∧
      ∀ text, Gives (fun found => Readable fewer found.1) (step text))
    {text : List Char} {found : Json × List Char} (read : ReadFrom inside text found) :
    Readable brackets found.1 := by
  cases read with
  | plain _ plain => exact readable_of_not_delimited plain brackets
  | string => exact ⟨trivial, Nat.zero_le _⟩
  | array _ given read =>
    obtain ⟨fewer, rfl, each⟩ := inner _ given
    exact readable_array (items_gives each _ _ _ _ read)
  | @object _ _ _ _ list _ given read =>
    obtain ⟨fewer, rfl, each⟩ := inner _ given
    obtain ⟨sorted, same, pairwise, known⟩ := ofFields_eq list
    have readable := fields_gives each _ _ _ _ read
    rw [same]
    exact readable_object pairwise fun field member => readable field (known field member)

theorem value_gives (brackets : Nat) (text : List Char) :
    Gives (fun found => Readable brackets found.1) (Json.value brackets text) := by
  induction brackets generalizing text with
  | zero =>
    refine (valueWith_gives none text).mono fun _ => readable_of_readFrom fun step same => ?_
    cases same
  | succ brackets ih =>
    refine (valueWith_gives _ text).mono fun _ => readable_of_readFrom fun step same => ?_
    cases same
    exact ⟨brackets, rfl, ih⟩

/-! ### Whole texts -/

section Texts

variable {text : String} {value : Json}

theorem value_of_parse (parsed : parse text = .ok value) :
    ∃ rest, Json.value bracketLimit text.toList = .ok (value, rest) := by
  unfold parse whole at parsed
  dsimp only at parsed
  split at parsed
  · next found read =>
    obtain ⟨⟨result, rest⟩, taken, closed⟩ := bind_eq_ok.mp read
    obtain ⟨_, -, same⟩ := bind_eq_ok.mp closed
    cases same
    cases parsed
    exact ⟨rest, taken⟩
  · cases parsed

theorem readFrom_of_parse (parsed : parse text = .ok value) :
    ∃ inside rest, ReadFrom inside text.toList (value, rest) := by
  obtain ⟨rest, taken⟩ := value_of_parse parsed
  obtain ⟨inside, same⟩ := value_eq_valueWith bracketLimit
  rw [same] at taken
  exact ⟨inside, rest, valueWith_gives inside _ _ taken⟩

theorem readable_of_parse (parsed : parse text = .ok value) : Readable bracketLimit value := by
  obtain ⟨rest, taken⟩ := value_of_parse parsed
  exact value_gives _ _ _ taken

theorem isDelimited_of_parse (parsed : parse text = .ok value)
    (opens : OpensDelimited text.toList) : value.IsDelimited := by
  obtain ⟨inside, rest, read⟩ := readFrom_of_parse parsed
  generalize same : (value, rest) = found at read
  cases read with
  | plain other => exact absurd (opens.skipGap_eq.symm ▸ opens) other
  | string => cases same; exact trivial
  | array => cases same; exact trivial
  | object => cases same; exact trivial

theorem quote_of_parse {read : String} (parsed : parse text = .ok (.string read)) :
    ∃ front, skipGap text.toList = '"' :: front ∧ read.toList.length < front.length := by
  obtain ⟨inside, rest, found⟩ := readFrom_of_parse parsed
  generalize same : (Json.string read, rest) = given at found
  cases found with
  | plain _ plain =>
    cases same
    exact absurd trivial plain
  | string opens inner =>
    cases same
    exact ⟨_, opens, Nat.lt_of_le_of_lt (Nat.le_add_right _ _) (quotedText_gives _ _ inner)⟩
  | array => cases same
  | object => cases same

theorem length_lt_of_parse {read : String} (parsed : parse text = .ok (.string read)) :
    read.toList.length < text.toList.length := by
  obtain ⟨front, opens, shorter⟩ := quote_of_parse parsed
  have fits : (skipGap text.toList).length ≤ text.toList.length :=
    (List.dropWhile_sublist _).length_le
  rw [opens, List.length_cons] at fits
  omega

end Texts

end LogSieve.Json
