import LogSieve.Proofs.Json.Records

/-! Values on one line. Only strings hold characters that somebody else has chosen, and in a string
every control character is escaped, so a value whose numbers are integers takes one line. An object
is written without gaps, and natural numbers are read as they are written. -/

namespace LogSieve.Json

/-! ### Line breaks -/

/-- No control character stands in the text as it is. -/
def Printed (text : List Char) : Prop := ∀ c ∈ text, 0x20 ≤ c.toNat

@[simp] theorem printed_nil : Printed [] := nofun

@[simp] theorem printed_cons {c : Char} {text : List Char} :
    Printed (c :: text) ↔ 0x20 ≤ c.toNat ∧ Printed text := by
  simp [Printed]

@[simp] theorem printed_append {front back : List Char} :
    Printed (front ++ back) ↔ Printed front ∧ Printed back := by
  simp [Printed, or_imp, forall_and]

theorem Printed.newline_notMem {text : List Char} (printed : Printed text) : '\n' ∉ text :=
  fun member => absurd (printed '\n' member) (by decide)

theorem printed_escapeChar (c : Char) : Printed (escapeChar c) := by
  have digits : ∀ n < 16, 0x20 ≤ (hexChar n).toNat := by decide
  unfold escapeChar
  split_ifs with _ _ _ _ _ _ _ control <;> simp
  · exact ⟨digits _ (by omega), digits _ (by omega)⟩
  · omega

theorem printed_writeString (text : String) : Printed (writeString text) := by
  have inside : Printed (text.toList.flatMap escapeChar) := by
    intro c member
    obtain ⟨d, -, escaped⟩ := List.mem_flatMap.mp member
    exact printed_escapeChar d c escaped
  simp [writeString, writeChars, inside]

theorem printed_writeInteger (n : Int) : Printed (writeInteger n) := by
  have digits : Printed (Nat.toDigits 10 n.natAbs) := by
    intro c member
    have digit : c.isDigit = true := Nat.isDigit_of_mem_toDigits (by decide) (by decide) member
    have code : 48 ≤ c.toNat ∧ c.toNat ≤ 57 := by
      simpa [Char.isDigit, UInt32.le_iff_toNat_le] using digit
    omega
  unfold writeInteger
  split_ifs <;> simp [digits]

mutual

theorem printed_write : ∀ value : Json, value.Exact → Printed (write value)
  | .null, _ => by simp [write]
  | .bool value, _ => by cases value <;> simp [write, writeBool]
  | .integer n, _ => by simpa [write] using printed_writeInteger n
  | .double x, exact => exact.elim
  | .string text, _ => by simpa [write] using printed_writeString text
  | .array [], _ => by simp [write]
  | .array (item :: rest), exact => by
    simp [write, printed_write item exact.1, printed_writeItems rest exact.2]
  | .object [], _ => by simp [write]
  | .object ((name, value) :: rest), exact => by
    simp [write, printed_writeString, printed_write value exact.1, printed_writeFields rest exact.2]

theorem printed_writeItems : ∀ list : List Json, ExactItems list → Printed (writeItems list)
  | [], _ => by simp [writeItems]
  | item :: rest, exact => by
    simp [writeItems, printed_write item exact.1, printed_writeItems rest exact.2]

theorem printed_writeFields : ∀ list : List (String × Json), ExactFields list →
    Printed (writeFields list)
  | [], _ => by simp [writeFields]
  | (name, value) :: rest, exact => by
    simp [writeFields, printed_writeString, printed_write value exact.1,
      printed_writeFields rest exact.2]

end

/-! ### Lists, objects and numbers -/

theorem writeItems_eq (list : List Json) :
    writeItems list = separated [] false (list.map write) := by
  induction list with
  | nil => rfl
  | cons item rest ih => simp [writeItems, separated, ih]

theorem write_array (list : List Json) :
    write (.array list) = listText [] [] (list.map write) := by
  cases list with
  | nil => simp [write, listText, separated]
  | cons item rest => simp [write, listText, separated, writeItems_eq]

theorem writeFields_eq (list : List (String × Json)) :
    writeFields list = separated [] false (fieldTexts [] write list) := by
  induction list with
  | nil => rfl
  | cons field rest ih =>
    obtain ⟨name, value⟩ := field
    simp [writeFields, separated, fieldTexts, fieldText] at ih ⊢
    exact ih

theorem write_object (list : List (String × Json)) :
    write (.object list) = objectText [] [] [] write list := by
  cases list with
  | nil => simp [write, objectText, separated, fieldTexts]
  | cons field rest =>
    obtain ⟨name, value⟩ := field
    simp [write, objectText, separated, writeFields_eq, fieldTexts, fieldText]

def oneLine : Layout where
  text _ := write
  gap _ := []
  closing _ _ := []
  inner := []
  isGap_gap _ := isGap_nil
  isGap_closing _ _ := isGap_nil
  isGap_inner := isGap_nil
  text_null _ := by rw [write]; rfl
  text_bool _ _ := by rw [write]
  text_integer _ _ := by rw [write]
  text_string _ _ := by rw [write]
  text_array _ := write_array
  text_object _ := write_object

theorem reads_write (brackets : Nat) {value : Json} (exact : value.Exact)
    (ordered : value.Ordered) (shallow : value.depth ≤ brackets) :
    Reads (Json.value brackets) (write value) value :=
  oneLine.reads_text 0 brackets value exact ordered shallow

theorem Form.reads_write {draft record : Type} {form : Form draft record} {brackets : Nat}
    {last : draft} {list : List (String × Json)} {result : record}
    (fills : Form.Fills form brackets write form.blank list last)
    (full : form.finish last = .ok result) :
    Reads (form.read (brackets + 1)) (write (.object list)) result := by
  rw [write_object]
  exact Form.reads_object isGap_nil isGap_nil isGap_nil fills full

theorem writeInteger_natCast (n : Nat) : writeInteger n = Nat.toDigits 10 n := by
  simp [writeInteger]

theorem writeInteger_eq_cons (n : Nat) :
    ∃ c rest, writeInteger n = c :: rest ∧ c.isDigit = true := by
  rw [writeInteger_natCast]
  cases same : Nat.toDigits 10 n with
  | nil => exact absurd same Nat.toDigits_ne_nil
  | cons c rest =>
    exact ⟨c, rest, rfl,
      Nat.isDigit_of_mem_toDigits (by decide) (by decide) (same ▸ List.mem_cons_self)⟩

theorem reads_natural (wanted : String) {limit n : Nat} (small : n < limit)
    (limited : limit ≤ 0x10000000000000000) :
    Reads (natural wanted limit) (writeInteger n) n := by
  intro gap rest blank ends
  obtain ⟨taken, found⟩ := numeral_toDigits false (Nat.lt_of_lt_of_le small limited) ends
  have tail : numberTail false ⟨n, taken, 0, rest⟩ = .ok (.natural n, rest) := by
    rw [numberTail_of_ends ends rfl, if_pos (by decide)]
  obtain ⟨c, more, same, digit⟩ := writeInteger_eq_cons n
  rw [← writeInteger_natCast, same, List.cons_append] at found
  rw [natural, skipGap_append blank, same, List.cons_append,
    skipGap_cons _ (isGap_of_isDigit digit)]
  split
  · contradiction
  · next minus => cases minus; exact absurd digit (by decide)
  · next front =>
    cases front
    rw [if_pos digit]
    exact bind_eq_ok.mpr ⟨_, found.trans tail, if_pos small⟩

theorem natural_gives (wanted : String) (limit : Nat) (text : List Char) :
    Gives (fun found => found.1 < limit) (natural wanted limit text) := by
  unfold natural
  extract_lets check
  have checked : ∀ found, Gives (fun found => found.1 < limit) (check found) := by
    rintro ⟨value | value | value, rest⟩
    · exact Gives.ite (fun small => gives_ok small) fun _ => gives_error _
    · exact gives_error _
    · exact gives_error _
  split
  · exact gives_error _
  · exact Gives.bind fun found _ => checked found
  · exact Gives.ite (fun _ => Gives.bind fun found _ => checked found) fun _ => gives_error _

end LogSieve.Json
