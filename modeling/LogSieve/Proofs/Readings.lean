import LogSieve.Proofs.CalendarOrder
import LogSieve.Proofs.Documents

/-! What can come out of a document, whoever has written it. The instants of a filter that has been
read are ones that the calendar holds and a clock can show, so a document that is written with them
can be read again. -/

namespace LogSieve

namespace Time

/-! ### Timestamps -/

theorem foldl_digits_lt (digits : List Char) (decimal : ∀ c ∈ digits, c.isDigit = true)
    (value : Nat) :
    digits.foldl (fun value c => value * 10 + (c.toNat - 48)) value <
      (value + 1) * 10 ^ digits.length := by
  induction digits generalizing value with
  | nil => simp
  | cons c rest ih =>
    obtain ⟨digit, others⟩ := List.forall_mem_cons.mp decimal
    have small : c.toNat - 48 ≤ 9 := by
      have code : 48 ≤ c.toNat ∧ c.toNat ≤ 57 := by
        simpa [Char.isDigit, UInt32.le_iff_toNat_le] using digit
      omega
    have first := ih others (value * 10 + (c.toNat - 48))
    have widened : value * 10 + (c.toNat - 48) + 1 ≤ (value + 1) * 10 := by omega
    rw [List.foldl_cons, List.length_cons, Nat.pow_succ']
    calc _ < (value * 10 + (c.toNat - 48) + 1) * 10 ^ rest.length := first
      _ ≤ (value + 1) * 10 * 10 ^ rest.length := Nat.mul_le_mul_right _ widened
      _ = (value + 1) * (10 * 10 ^ rest.length) := Nat.mul_assoc _ _ _

theorem number_gives (least most : Nat) (text : List Char) :
    Gives (fun found => ∃ digits, text = digits ++ found.2 ∧ digits.length ≤ most ∧
      found.1 < 10 ^ digits.length) (number least most text) := by
  have front : ((text.take most).takeWhile Char.isDigit) <+: text :=
    (List.takeWhile_prefix _).trans (List.take_prefix _ _)
  have decimal : ∀ c ∈ (text.take most).takeWhile Char.isDigit, c.isDigit = true :=
    fun c => List.mem_takeWhile_imp
  have short : ((text.take most).takeWhile Char.isDigit).length ≤ most :=
    Nat.le_trans (List.takeWhile_prefix _).length_le (List.length_take_le _ _)
  have value := foldl_digits_lt _ decimal 0
  rw [Nat.zero_add, Nat.one_mul] at value
  unfold number
  dsimp only
  split_ifs
  · exact gives_error _
  · exact gives_error _
  · rintro _ ⟨⟩
    exact ⟨_, (List.prefix_iff_eq_append.mp front).symm, short, value⟩

theorem nanoseconds_gives (text : List Char) :
    Gives (fun found => found.1 < 1000000000) (nanoseconds text) := by
  unfold nanoseconds
  split
  · refine Gives.bind fun found read => ?_
    obtain ⟨digits, rfl, short, small⟩ := number_gives _ _ _ _ read
    rintro _ ⟨⟩
    have places : (digits ++ found.2).length - found.2.length = digits.length := by
      rw [List.length_append, Nat.add_sub_cancel]
    have all : 10 ^ digits.length * 10 ^ (9 - digits.length) = 1000000000 := by
      rw [← Nat.pow_add, Nat.add_sub_cancel' short]
    dsimp only
    rw [places, ← all]
    exact Nat.mul_lt_mul_of_pos_right small (Nat.pow_pos (by decide))
  · rintro _ ⟨⟩
    exact (by decide : 0 < 1000000000)

theorem zone_gives (between : List Char → Except Fault (List Char)) (text : List Char) :
    Gives (fun found => found.1 % 60 = 0) (zone between text) := by
  unfold zone
  split
  · rintro _ ⟨⟩
    rfl
  · rintro _ ⟨⟩
    rfl
  · unfold signedOffset
    extract_lets next
    have later : ∀ found, Gives (fun found => found.1 % 60 = 0) (next found) := by
      rintro ⟨ahead, text⟩
      refine Gives.bind fun ⟨a, b, text⟩ _ => Gives.unless ?_
      refine Gives.bind fun text _ => Gives.bind fun ⟨c, d, text⟩ _ => ?_
      refine Gives.unless (Gives.unless ?_)
      rintro _ ⟨⟩
      dsimp only
      split <;> omega
    split <;> exact Gives.bind fun found _ => later found

theorem within_gives (low high value : Nat) :
    Gives (fun found => low ≤ found ∧ found ≤ high) (within low high value) := by
  unfold within
  exact Gives.ite (fun inside => gives_ok inside) fun _ => gives_error _

theorem looseField_gives (low high : Nat) (text : List Char) :
    Gives (fun found => low ≤ found.1 ∧ found.1 ≤ high) (looseField low high text) := by
  refine Gives.bind fun read _ => Gives.bind fun value kept => ?_
  rintro _ ⟨⟩
  exact within_gives _ _ _ _ kept

/-- The second that is added to a minute stands behind its last one, and clocks that are as far ahead
as the stamp says show the date that it was made of. -/
theorem stampOf_gives (year : Int) (month day : Nat) {clock : Clock} {offset : Int}
    (hour : clock.hour ≤ 23) (minute : clock.minute ≤ 59) (nanos : clock.nanos < 1000000000)
    (minutes : offset % 60 = 0) :
    Gives Stamp.Dated (stampOf year month day clock offset) := by
  refine Gives.bind fun date checked => ?_
  have valid : date.Valid := by
    unfold checkedDate at checked
    dsimp only at checked
    split_ifs at checked with valid
    cases checked
    exact valid
  have inDay : clock.secondOfDay < 86400 := by
    simp only [Clock.secondOfDay]
    omega
  dsimp only
  split_ifs with far inside
  · exact gives_error _
  · rintro _ ⟨⟩
    refine ⟨⟨inside, ?_⟩, ?_, minutes, by dsimp only; omega⟩
    · simp only [Instant.ofLocal, Clock.nanosOfSecond, Clock.secondOfDay]
      split_ifs with added
      · right
        rw [added]
        omega
      · exact .inl nanos
    · have sameDay : (date.dayNumber * 86400 + clock.secondOfDay - offset + offset) / 86400 =
          date.dayNumber := by omega
      simp only [Instant.toLocal, Instant.ofLocal, sameDay, Date.ofDayNumber_dayNumber valid]
      exact valid
  · exact gives_error _

theorem readRelaxed_gives (text : List Char) : Gives Stamp.Dated (readRelaxed text) := by
  refine Gives.bind fun ⟨year, text⟩ _ => Gives.bind fun dash _ => ?_
  refine Gives.bind fun ⟨month, text⟩ _ => Gives.bind fun dash _ => ?_
  refine Gives.bind fun ⟨day, text⟩ _ => Gives.bind fun mark _ => ?_
  refine Gives.bind fun ⟨hour, text⟩ readHour => Gives.bind fun colon _ => ?_
  refine Gives.bind fun ⟨minute, text⟩ readMinute => Gives.bind fun colon _ => ?_
  refine Gives.bind fun ⟨second, text⟩ _ => Gives.bind fun ⟨nanos, text⟩ readNanos => ?_
  have hours := (looseField_gives _ _ _ _ readHour).2
  have minutes := (looseField_gives _ _ _ _ readMinute).2
  have small := nanoseconds_gives _ _ readNanos
  refine Gives.ite (fun _ => Gives.bind fun ⟨offset, text⟩ same => ?_)
    fun _ => Gives.bind fun ⟨offset, text⟩ read => ?_
  · cases same
    exact Gives.unless (stampOf_gives year month day hours minutes small rfl)
  · exact Gives.unless (stampOf_gives year month day hours minutes small (zone_gives _ _ _ read))

end Time

namespace Json

/-! ### Records -/

theorem parsed_gives (wanted : String) (read : String → Except String α) (text : List Char) :
    Gives (fun found => ∃ word, read word = .ok found.1) (parsed wanted read text) := by
  unfold parsed
  split
  · exact gives_error _
  · refine Gives.bind fun ⟨word, rest⟩ _ => ?_
    dsimp only
    split
    · next value same =>
      rintro _ ⟨⟩
      exact ⟨word, same⟩
    · exact gives_error _
  · exact gives_error _

theorem orNull_gives {step : Step α} {right : α → Prop}
    (each : ∀ text, Gives (fun found => right found.1) (step text)) (text : List Char) :
    Gives (fun found => ∀ value ∈ found.1, right value) (orNull step text) := by
  unfold orNull
  split
  · refine Gives.bind fun rest _ => ?_
    rintro _ ⟨⟩ _ ⟨⟩
  · refine Gives.bind fun found read => ?_
    rintro _ ⟨⟩ value ⟨⟩
    exact each _ _ read

namespace Form

variable {draft record : Type} {form : Form draft record} {right : draft → Prop}

def Preserves (form : Form draft record) (right : draft → Prop) : Prop :=
  ∀ member ∈ form.members, ∀ brackets state text, right state →
    Gives (fun found => right found.1) (member.fill brackets state text)

theorem fillFields_gives (preserves : form.Preserves right) (brackets steps : Nat) (first : Bool)
    {state : draft} (start : right state) (text : List Char) :
    Gives (fun found => Gives right found.1)
      (form.fillFields brackets steps first state text) := by
  induction steps generalizing first state text with
  | zero => exact gives_error _
  | succ steps ih =>
    refine Gives.bind fun ⟨more, text⟩ _ => Gives.ite (fun _ => ?_) fun _ => ?_
    · rintro _ ⟨⟩ _ ⟨⟩
      exact start
    · refine Gives.bind fun ⟨name, text⟩ _ => ?_
      dsimp only
      split
      · exact Gives.bind fun _ _ => Gives.bind fun text _ => ih false start text
      · next member known =>
        refine Gives.ite (fun _ => ?_) fun _ => Gives.bind fun _ _ => Gives.bind fun found filled =>
          ih false ?_ found.2
        · rintro _ ⟨⟩
          exact gives_error _
        · exact preserves member (List.mem_of_find?_eq_some known) _ _ _ start found filled

theorem fillItems_gives (preserves : form.Preserves right) (brackets : Nat)
    {members : List (Member draft)} (known : members ⊆ form.members) (index : Nat) (first : Bool)
    {state : draft} (start : right state) (text : List Char) :
    Gives (fun found => Gives right found.1)
      (form.fillItems brackets members index first state text) := by
  induction members generalizing index first state text with
  | nil =>
    rintro _ ⟨⟩ _ ⟨⟩
    exact start
  | cons member members ih =>
    obtain ⟨here, others⟩ := List.cons_subset.mp known
    refine Gives.bind fun ⟨more, text⟩ _ => Gives.ite
      (fun _ => Gives.bind fun found filled => ih others (index + 1) false ?_ found.2)
      fun _ => Gives.ite (fun _ => ih others (index + 1) first start text) fun _ => ?_
    · exact preserves member here _ _ _ start found filled
    · rintro _ ⟨⟩
      exact gives_error _

theorem settle_gives {close : List Char → Except Fault (List Char)}
    {past : List Char → List Char} {filled : Except Cause draft × List Char}
    (gives : Gives right filled.1) :
    Gives (fun found => ∃ state, right state ∧ form.finish state = .ok found.1)
      (form.settle close past filled) := by
  obtain ⟨outcome, text⟩ := filled
  unfold settle
  dsimp only
  split
  · next result finished =>
    obtain ⟨state, filled, finished⟩ := bind_eq_ok.mp finished
    refine Gives.bind fun rest _ => ?_
    rintro _ ⟨⟩
    exact ⟨state, gives state filled, finished⟩
  · exact gives_error _

/-- Whatever members keep of a draft, from the blank one on, is true of the draft of a record. -/
theorem decode_gives (preserves : form.Preserves right) (blank : right form.blank)
    (text : String) :
    Gives (fun result => ∃ state, right state ∧ form.finish state = .ok result)
      (form.decode text) := by
  have read : ∀ chars, Gives (fun found => ∃ state, right state ∧ form.finish state = .ok found.1)
      (form.read bracketLimit chars) := by
    intro chars
    unfold Form.read
    split
    · exact gives_error _
    · exact gives_error _
    · exact gives_error _
    · exact Gives.bind fun found filled => settle_gives
        (fillItems_gives preserves _ (List.Subset.refl _) 0 true blank _ found filled)
    · exact Gives.bind fun found filled => settle_gives
        (fillFields_gives preserves _ _ true blank _ found filled)
    · exact gives_error _
  intro result decoded
  unfold decode whole at decoded
  dsimp only at decoded
  split at decoded
  · next same =>
    cases decoded
    obtain ⟨found, readFound, rest⟩ := bind_eq_ok.mp same
    obtain ⟨_, _, kept⟩ := bind_eq_ok.mp rest
    cases kept
    exact read _ found readFound
  · cases decoded

end Form

end Json

namespace Record

theorem anyStamp_gives (text : List Char) :
    Gives (fun found => found.1.Dated) (anyStamp text) := by
  refine (Json.parsed_gives _ _ text).mono fun found ⟨word, read⟩ => ?_
  unfold Time.stamp at read
  cases made : Time.readRelaxed word.toList with
  | error fault =>
    rw [made] at read
    cases read
  | ok stamp =>
    rw [made] at read
    cases read
    exact Time.readRelaxed_gives _ _ made

end Record

namespace SavedFilter

def Draft.Dated (draft : Draft) : Prop :=
  (∀ stamp, draft.createdAt = some (some stamp) → stamp.instant.Dated) ∧
    ∀ stamp, draft.lastModified = some (some stamp) → stamp.instant.Dated

theorem preserves_dated : Json.Form.Preserves form Draft.Dated := by
  intro member known brackets state text dated
  have stamps : ∀ text, Gives (fun found => ∀ stamp ∈ found.1, Time.Instant.Dated stamp.instant)
      (Json.orNull Record.anyStamp text) :=
    Json.orNull_gives fun text => (Record.anyStamp_gives text).mono fun _ dated => dated.instant
  simp only [form, List.mem_cons, List.not_mem_nil, or_false] at known
  obtain rfl | rfl | rfl | rfl | rfl := known
  all_goals
    refine Gives.bind fun found read => ?_
    rintro _ ⟨⟩
  · exact dated
  · exact dated
  · exact dated
  · exact ⟨fun stamp same => stamps _ _ read stamp (Option.some.inj same), dated.2⟩
  · exact ⟨dated.1, fun stamp same => stamps _ _ read stamp (Option.some.inj same)⟩

theorem ofDocument_gives (text : String) :
    Gives (fun saved => (∀ instant ∈ saved.createdAt, instant.Dated) ∧
      ∀ instant ∈ saved.lastModified, instant.Dated) (ofDocument text) := by
  refine (Json.Form.decode_gives preserves_dated ⟨nofun, nofun⟩ text).mono ?_
  rintro saved ⟨draft, ⟨createdAt, lastModified⟩, finished⟩
  obtain ⟨name, -, finished⟩ := bind_eq_ok.mp finished
  cases finished
  have dated : ∀ {field : Option (Option Time.Stamp)},
      (∀ stamp, field = some (some stamp) → stamp.instant.Dated) →
      ∀ instant ∈ (field.getD none).map (·.instant), instant.Dated := by
    rintro (_ | _ | stamp) known instant ⟨⟩
    exact known stamp rfl
  exact ⟨dated createdAt, dated lastModified⟩

end SavedFilter

end LogSieve
