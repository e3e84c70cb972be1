import LogSieve.Json.Decoder
import LogSieve.Proofs.Json.Values

/-! Records are read as they were written. A record is written as an object; reading takes its
fields one after the other, each for the member of its name, and the full draft gives the record
back. -/

namespace LogSieve.Json

section Steps

theorem Reads.map {step : Step α} {text : List Char} {result : α} (reads : Reads step text result)
    (make : α → β) :
    Reads (fun text => do
      let (value, rest) ← step text
      return (make value, rest)) text (make result) :=
  fun gap rest blank ends => bind_eq_ok.mpr ⟨_, reads gap rest blank ends, rfl⟩

theorem reads_parsed {wanted : String} {read : String → Except String α} {found : String}
    {result : α} (accepted : read found = .ok result) :
    Reads (parsed wanted read) (writeString found) result := by
  intro gap rest blank _
  rw [parsed, skipGap_append blank, writeString_append, skipGap_cons _ (by decide)]
  refine bind_eq_ok.mpr ⟨_, quotedText_escaped found rest, ?_⟩
  simp only [accepted]
  rfl

theorem reads_anyText (text : String) : Reads anyText (writeString text) text :=
  reads_parsed rfl

theorem reads_orNull {step : Step α} {text : List Char} {result : α}
    (reads : Reads step text result)
    (opens : ∃ c rest, text = c :: rest ∧ isGap c = false ∧ c ≠ 'n') :
    Reads (orNull step) text (some result) := by
  obtain ⟨c, others, rfl, solid, other⟩ := opens
  intro gap rest blank ends
  have found := reads [] rest isGap_nil ends
  rw [orNull, skipGap_append blank, List.cons_append, skipGap_cons _ solid]
  split
  · next same => exact absurd (List.cons.inj same).1 other
  · exact bind_eq_ok.mpr ⟨_, found, rfl⟩

theorem reads_listOf {item : Nat → Step α} {text : α → List Char} {brackets : Nat}
    {gap close : List Char} (blank : IsGap gap) (blankEnd : IsGap close) {list : List α}
    (each : ∀ x ∈ list, Opens (text x) ∧ Reads (item brackets) (text x) x) :
    Reads (listOf item (brackets + 1)) (listText gap close (list.map text)) list := by
  intro gap' rest blank' _
  obtain ⟨body, same, found⟩ := items_listText blank blankEnd each rest
  rw [listOf, skipGap_append blank', same, skipGap_cons _ (by decide)]
  exact bind_eq_ok.mpr ⟨_, found, bind_eq_ok.mpr ⟨_, closeList_bracket rest, rfl⟩⟩

end Steps

namespace Form

variable {draft record : Type}

/-- Fields that fill a draft: each has a member of its name that is not filled yet, and the member
reads the text of its value. -/
inductive Fills (form : Form draft record) (brackets : Nat) (text : Json → List Char) :
    draft → List (String × Json) → draft → Prop
  | nil (state : draft) : Fills form brackets text state [] state
  | cons {state next last : draft} {name : String} {value : Json} {fields : List (String × Json)}
      (member : Member draft) (known : form.members.find? (·.name == name) = some member)
      (new : member.filled state = false)
      (reads : Reads (member.fill brackets state) (text value) next)
      (later : Fills form brackets text next fields last) :
      Fills form brackets text state ((name, value) :: fields) last

variable {form : Form draft record} {brackets : Nat} {text : Json → List Char}

theorem Fills.append {state middle last : draft} {front back : List (String × Json)}
    (first : Fills form brackets text state front middle)
    (second : Fills form brackets text middle back last) :
    Fills form brackets text state (front ++ back) last := by
  induction first with
  | nil => exact second
  | cons member known new reads _ ih => exact .cons member known new reads (ih second)

theorem fillFields_separated {gap close inner : List Char} (blank : IsGap gap)
    (blankEnd : IsGap close) (blankInner : IsGap inner) {state last : draft}
    {list : List (String × Json)} (fills : Fills form brackets text state list last)
    (rest : List Char) {steps : Nat} (enough : list.length < steps) (first : Bool) :
    form.fillFields brackets steps first state
        (separated gap first (fieldTexts inner text list) ++ (close ++ '}' :: rest)) =
      .ok (.ok last, '}' :: rest) := by
  induction fills generalizing steps first with
  | nil state =>
    obtain ⟨steps, rfl⟩ := Nat.exists_eq_add_of_lt enough
    rw [fieldTexts, List.map_nil, separated, List.nil_append, fillFields, nextField_close blankEnd]
    rfl
  | @cons state next last name value fields member known new reads fills ih =>
    obtain ⟨steps, rfl⟩ := Nat.exists_eq_succ_of_ne_zero (Nat.ne_of_gt (Nat.zero_lt_of_lt enough))
    have later := ih (Nat.lt_of_succ_lt_succ enough) false
    have taken := reads inner _ blankInner
      (ends_separated gap blankEnd (fieldTexts inner text fields)
        (ends_cons (c := '}') rest))
    rw [fieldTexts, List.map_cons, ← fieldTexts, separated, List.append_assoc, List.append_assoc,
      List.append_assoc, fieldText_append, fillFields]
    refine bind_eq_ok.mpr ⟨_, nextField_open blank first _, bind_eq_ok.mpr
      ⟨_, quotedText_escaped name _, ?_⟩⟩
    simp only [known, new]
    exact bind_eq_ok.mpr ⟨_, colon_cons _, bind_eq_ok.mpr ⟨_, taken, later⟩⟩

theorem reads_object {gap close inner : List Char} (blank : IsGap gap) (blankEnd : IsGap close)
    (blankInner : IsGap inner) {last : draft} {list : List (String × Json)} {result : record}
    (fills : Fills form brackets text form.blank list last) (full : form.finish last = .ok result) :
    Reads (form.read (brackets + 1)) (objectText gap close inner text list) result := by
  intro gap' rest blank' _
  have enough := length_lt_objectText gap close inner text list rest
  have found := fillFields_separated blank blankEnd blankInner fills rest enough true
  have settled :
      form.settle closeObject pastObject (.ok last, '}' :: rest) = .ok (result, rest) := by
    rw [settle, Except.bind, full]
    exact bind_eq_ok.mpr ⟨_, closeObject_brace rest, rfl⟩
  unfold read
  rw [skipGap_append blank', objectText_append, skipGap_cons _ (by decide)]
  exact bind_eq_ok.mpr ⟨_, found, settled⟩

end Form

end LogSieve.Json
