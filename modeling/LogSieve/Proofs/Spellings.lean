import Mathlib.Data.List.TakeWhile
import LogSieve.Comparison
import LogSieve.Proofs.CalendarOrder
import LogSieve.Proofs.Timestamps

/-! The accepted texts of a local time. The forms are tried in turn, and each text is taken by one
of them alone: the strict form is the only one with an offset, a blank or a letter tells the two
naive ones apart, and a bare date is too short for all three. -/

namespace LogSieve

namespace Text

/-! ### Blanks around a text -/

def Around (inner outer : List Char) : Prop :=
  ∃ before after, outer = before ++ inner ++ after ∧ (∀ c ∈ before, isBlank c = true) ∧
    ∀ c ∈ after, isBlank c = true

theorem trimLeft_append {before : List Char} (blank : ∀ c ∈ before, isBlank c = true)
    (text : List Char) : trimLeft (before ++ text) = trimLeft text := by
  simp [trimLeft, List.dropWhile_append, List.dropWhile_eq_nil_iff.mpr blank]

theorem trimRight_append {after : List Char} (blank : ∀ c ∈ after, isBlank c = true)
    (text : List Char) : trimRight (text ++ after) = trimRight text := by
  have reversed : ∀ c ∈ after.reverse, isBlank c = true := by simpa using blank
  simp [trimRight, List.dropWhile_append, List.dropWhile_eq_nil_iff.mpr reversed]

theorem Around.trim_eq {inner outer : List Char} (around : Around inner outer) :
    trim outer = trim inner := by
  obtain ⟨before, after, rfl, blank, blank'⟩ := around
  rw [trim, trim, List.append_assoc, trimLeft_append blank]
  by_cases given : trimLeft inner = []
  · have all : ∀ c ∈ inner, isBlank c = true := List.dropWhile_eq_nil_iff.mp given
    have nothing : trimLeft after = [] := List.dropWhile_eq_nil_iff.mpr blank'
    rw [given, trimLeft_append all, nothing]
  · have kept : trimLeft (inner ++ after) = trimLeft inner ++ after := by
      unfold trimLeft at given ⊢
      simp [List.dropWhile_append, given]
    rw [kept, trimRight_append blank']

theorem around_trim (text : List Char) : Around (trim text) text := by
  refine ⟨text.takeWhile isBlank, ((trimLeft text).reverse.takeWhile isBlank).reverse, ?_,
    fun c => List.mem_takeWhile_imp, fun c member => ?_⟩
  · rw [List.append_assoc, trim, trimRight, ← List.reverse_append,
      List.takeWhile_append_dropWhile, List.reverse_reverse, trimLeft,
      List.takeWhile_append_dropWhile]
  · exact List.mem_takeWhile_imp (List.mem_reverse.mp member)

theorem trim_trim (text : List Char) : trim (trim text) = trim text :=
  (around_trim text).trim_eq.symm

def EndsSolid (text : List Char) : Prop := ∃ front c, text = front ++ [c] ∧ isBlank c = false

theorem EndsSolid.append {text : List Char} (ends : EndsSolid text) (front : List Char) :
    EndsSolid (front ++ text) := by
  obtain ⟨inner, c, rfl, solid⟩ := ends
  exact ⟨front ++ inner, c, by simp, solid⟩

theorem EndsSolid.cons {text : List Char} (ends : EndsSolid text) (c : Char) :
    EndsSolid (c :: text) :=
  ends.append [c]

theorem EndsSolid.trimRight_eq {text : List Char} (ends : EndsSolid text) :
    trimRight text = text := by
  obtain ⟨front, c, rfl, solid⟩ := ends
  simp [trimRight, solid]

end Text

namespace Time

open Text

theorem endsSolid_digits {digits : List Char} (given : digits ≠ [])
    (decimal : ∀ c ∈ digits, c.isDigit = true) : EndsSolid digits :=
  ⟨digits.dropLast, digits.getLast given, (List.dropLast_append_getLast given).symm,
    isBlank_of_isDigit (decimal _ (List.getLast_mem given))⟩

theorem endsSolid_padded {width n : Nat} (positive : 0 < width) (fits : n < 10 ^ width) :
    EndsSolid (padded width n) := by
  obtain ⟨length, decimal, -⟩ := padded_spec positive fits
  exact endsSolid_digits (List.length_pos_iff.mp (length.symm ▸ positive)) decimal

/-! ### Local times -/

/-- A date of a year in four digits with a time of day and up to nine decimals of its second. -/
structure LocalTime where
  date : Date
  hour : Nat
  minute : Nat
  second : Nat
  decimals : List Char
  year : 0 ≤ date.year ∧ date.year ≤ 9999
  valid : date.Valid
  hour_le : hour ≤ 23
  minute_le : minute ≤ 59
  second_le : second ≤ 59
  decimal : ∀ c ∈ decimals, c.isDigit = true
  short : decimals.length ≤ 9

namespace LocalTime

variable (time : LocalTime)

def nanos : Nat := digitsValue time.decimals * 10 ^ (9 - time.decimals.length)

def clock : Clock := ⟨time.hour, time.minute, time.second, time.nanos⟩

def instant (offset : Int) : Instant := .ofLocal time.date time.clock offset

def figures : List Int := time.date.figures ++ time.clock.figures

theorem plain : time.clock.Plain := ⟨time.hour_le, time.minute_le, time.second_le⟩

def fraction : List Char := if time.decimals = [] then [] else '.' :: time.decimals

def chars (mark : Char) : List Char :=
  writeDate time.date ++ mark :: (padded 2 time.hour ++ ':' :: (padded 2 time.minute ++
    ':' :: (padded 2 time.second ++ time.fraction)))

theorem before_iff (first second : LocalTime) (offset : Int) :
    (first.instant offset).before (second.instant offset) = true ↔
      first.figures < second.figures :=
  before_ofLocal_iff first.valid second.valid first.plain second.plain offset

/-! ### The forms -/

theorem writeDate_eq : writeDate time.date = padded 4 time.date.year.toNat ++
    '-' :: (padded 2 time.date.month ++ '-' :: padded 2 time.date.day) := by
  simp [writeDate, writeYear, time.year]

theorem year_toNat : (time.date.year.toNat : Int) = time.date.year :=
  Int.toNat_of_nonneg time.year.1

theorem year_fits : time.date.year.toNat < 10 ^ 4 := by
  have year := time.year
  omega

/-! The bounds that the forms check, one field at a time. -/

theorem month_bounds : 1 ≤ time.date.month ∧ time.date.month ≤ 12 := by
  obtain ⟨-, -, first, last, -, -⟩ := time.valid
  exact ⟨first, last⟩

theorem day_bounds : 1 ≤ time.date.day ∧ time.date.day ≤ 31 := by
  obtain ⟨-, -, -, -, first, last⟩ := time.valid
  exact ⟨first, Nat.le_trans last (daysInMonth_le _ _)⟩

theorem hour_bounds : 0 ≤ time.hour ∧ time.hour ≤ 23 := ⟨Nat.zero_le _, time.hour_le⟩

theorem minute_bounds : 0 ≤ time.minute ∧ time.minute ≤ 59 := ⟨Nat.zero_le _, time.minute_le⟩

theorem second_bounds : 0 ≤ time.second ∧ time.second ≤ 60 :=
  ⟨Nat.zero_le _, Nat.le_succ_of_le time.second_le⟩

def Ended (rest : List Char) : Prop := NoDigit rest ∧ rest.head? ≠ some '.'

theorem nanoseconds_fraction {rest : List Char} (ended : Ended rest) :
    nanoseconds (time.fraction ++ rest) = .ok (time.nanos, rest) := by
  rw [fraction, nanos]
  split_ifs with none
  · simp [none, digitsValue, nanoseconds_none ended.2]
  · exact nanoseconds_digits none time.decimal time.short ended.1

theorem checkedDate_date : checkedDate time.date.year time.date.month time.date.day =
    .ok time.date :=
  if_pos time.valid

theorem stampOf_clock {offset : Int} (short : -86400 < offset ∧ offset < 86400) :
    stampOf time.date.year time.date.month time.date.day time.clock offset =
      .ok ⟨time.instant offset, offset⟩ := by
  obtain ⟨-, -, -, lastMonth, firstDay, lastDay⟩ := time.valid
  have inYear := daysBeforeMonth_le_daysInYear (isLeap time.date.year) lastMonth
  have long := (daysInYear_bounds (isLeap time.date.year)).2
  have years := time.year
  have inDay := Clock.secondOfDay_lt time.plain
  have first : (Date.mk firstYear 1 1).dayNumber ≤ -1000000 := by decide
  have last : 4000000 ≤ (Date.mk lastYear 12 31).dayNumber := by decide
  have number : -800000 ≤ time.date.dayNumber ∧ time.date.dayNumber ≤ 3000000 := by
    simp only [Date.dayNumber, daysBeforeYear, epoch]
    omega
  refine bind_eq_ok.mpr ⟨time.date, time.checkedDate_date, ?_⟩
  rw [if_neg (by omega)]
  refine if_pos ?_
  simp only [Instant.ofLocal, clock] at inDay ⊢
  omega

theorem readStrict_writeDate (rest : List Char) :
    readStrict (writeDate time.date ++ rest) = (do
      let (hour, text) ← field 2 2 0 23 (← separator rest).2
      let (minute, text) ← field 2 2 0 59 (← mark ':' text).2
      let (second, text) ← field 2 2 0 60 (← mark ':' text).2
      let (nanos, text) ← nanoseconds text
      let (offset, text) ← zone passColon text
      if 86400 ≤ offset ∨ offset ≤ -86400 then throw .outOfRange
      if !text.isEmpty then throw .tooLong
      stampOf time.date.year time.date.month time.date.day ⟨hour, minute, second, nanos⟩
        offset) := by
  simp only [writeDate_eq, List.append_assoc, List.cons_append]
  have year := number_padded 4 4 (by decide) time.year_fits (by decide)
  refine (bind_of_ok (year _ (.inl rfl))).trans ?_
  refine (bind_of_ok (by rfl)).trans ?_
  refine (bind_of_ok (field_padded (by decide) time.month_bounds (by decide) _)).trans ?_
  refine (bind_of_ok (by rfl)).trans ?_
  refine (bind_of_ok (field_padded (by decide) time.day_bounds (by decide) _)).trans ?_
  simp only [time.year_toNat]

theorem readStrict_chars {mark : Char} (marks : mark ∈ ['T', 't', ' ']) {rest : List Char}
    (ended : Ended rest) : readStrict (time.chars mark ++ rest) = (do
      let (offset, text) ← zone passColon rest
      if 86400 ≤ offset ∨ offset ≤ -86400 then throw .outOfRange
      if !text.isEmpty then throw .tooLong
      stampOf time.date.year time.date.month time.date.day time.clock offset) := by
  have separated (text : List Char) : separator (mark :: text) = .ok ((), text) := by
    simp at marks
    simp [separator]
    tauto
  simp only [chars, List.append_assoc, List.cons_append, readStrict_writeDate]
  refine (bind_of_ok (separated _)).trans ?_
  refine (bind_of_ok (field_padded (by decide) time.hour_bounds (by decide) _)).trans ?_
  refine (bind_of_ok (by rfl)).trans ?_
  refine (bind_of_ok (field_padded (by decide) time.minute_bounds (by decide) _)).trans ?_
  refine (bind_of_ok (by rfl)).trans ?_
  refine (bind_of_ok (field_padded (by decide) time.second_bounds (by decide) _)).trans ?_
  exact (bind_of_ok (time.nanoseconds_fraction ended))

theorem readStrict_zone {mark : Char} (marks : mark ∈ ['T', 't', ' ']) (written : Zone) :
    readStrict (time.chars mark ++ written.chars) =
      .ok ⟨time.instant written.seconds, written.seconds⟩ := by
  obtain ⟨-, -, noDigit, noPoint⟩ := written.begins
  have short := written.seconds_bounds
  have zoned := zone_chars passesColon_passColon written []
  rw [List.append_nil] at zoned
  rw [time.readStrict_chars marks ⟨noDigit, noPoint⟩]
  refine (bind_of_ok zoned).trans ?_
  have inDay : ¬ (86400 ≤ written.seconds ∨ written.seconds ≤ -86400) := by omega
  simp [inDay, time.stampOf_clock short]

theorem looseDate_writeDate (rest : List Char) : looseDate (writeDate time.date ++ rest) =
    .ok ((time.date.year, time.date.month, time.date.day), rest) := by
  simp only [writeDate_eq, List.append_assoc, List.cons_append]
  refine (bind_of_ok (looseYear_padded time.year_fits _)).trans ?_
  refine (bind_of_ok (by rfl)).trans ?_
  refine (bind_of_ok (looseField_padded time.month_bounds (by decide) _)).trans ?_
  refine (bind_of_ok (by rfl)).trans ?_
  refine (bind_of_ok (looseField_padded time.day_bounds (by decide) _)).trans ?_
  simp only [time.year_toNat]
  rfl

theorem readNaive_chars {between : List Char → Except Fault (List Char)} {mark : Char}
    (passes : ∀ text, between (mark :: (padded 2 time.hour ++ text)) =
      .ok (padded 2 time.hour ++ text)) :
    readNaive between (time.chars mark) = .ok (time.instant 0) := by
  have ended : Ended [] := ⟨trivial, by simp⟩
  have fraction := time.nanoseconds_fraction ended
  rw [List.append_nil] at fraction
  refine (bind_of_ok (time.looseDate_writeDate _)).trans ?_
  refine (bind_of_ok (passes _)).trans ?_
  refine (bind_of_ok (looseField_padded time.hour_bounds (by decide) _)).trans ?_
  refine (bind_of_ok (by rfl)).trans ?_
  refine (bind_of_ok (looseField_padded time.minute_bounds (by decide) _)).trans ?_
  refine (bind_of_ok (by rfl)).trans ?_
  refine (bind_of_ok (looseField_padded time.second_bounds (by decide) _)).trans ?_
  refine (bind_of_ok fraction).trans ?_
  exact bind_of_ok time.checkedDate_date

/-! ### The forms in turn -/

theorem readStrict_naive {mark : Char} (marks : mark ∈ ['T', 't', ' ']) :
    readStrict (time.chars mark) = .error .tooShort := by
  have ended : Ended [] := ⟨trivial, by simp⟩
  have read := time.readStrict_chars marks ended
  rw [List.append_nil] at read
  exact read.trans rfl

theorem readStrict_day : readStrict (writeDate time.date) = .error .tooShort := by
  have read := time.readStrict_writeDate []
  rw [List.append_nil] at read
  exact read.trans rfl

theorem looseDate_day : looseDate (writeDate time.date) =
    .ok ((time.date.year, time.date.month, time.date.day), []) := by
  simpa using time.looseDate_writeDate []

theorem readNaive_passBlanks_letter : readNaive passBlanks (time.chars 'T') = .error .invalid :=
  (bind_of_ok (time.looseDate_writeDate _)).trans rfl

theorem readNaive_day : readNaive passBlanks (writeDate time.date) = .error .tooShort ∧
    readNaive passLetter (writeDate time.date) = .error .tooShort :=
  ⟨(bind_of_ok time.looseDate_day).trans rfl, (bind_of_ok time.looseDate_day).trans rfl⟩

theorem readDay_day :
    readDay (writeDate time.date) = .ok (.ofLocal time.date .midnight 0) :=
  (bind_of_ok time.looseDate_day).trans (bind_of_ok time.checkedDate_date)

end LocalTime

theorem instant?_eq {text : String} {chars : List Char} (trimmed : trim text.toList = chars) :
    instant? text = ((readStrict chars).toOption.map Stamp.instant <|>
      (readNaive passBlanks chars).toOption <|> (readNaive passLetter chars).toOption <|>
      (readDay chars).toOption) := by
  unfold instant?
  simp only [trimmed]
  generalize readStrict chars = strict
  generalize readNaive passBlanks chars = blank
  generalize readNaive passLetter chars = letter
  generalize readDay chars = day
  cases strict <;> cases blank <;> cases letter <;> cases day <;> rfl

end Time

open Text Time

namespace Comparison

theorem readInstant_around {inner outer : String} (around : Around inner.toList outer.toList) :
    readInstant (.string outer) = readInstant (.string inner) := by
  simp only [readInstant, trimmed, around.trim_eq]

theorem readInstant_of_instant? {text : String} {instant : Instant}
    (read : instant? text = some instant) : readInstant (.string text) = .ok instant := by
  have same : instant? (trimmed text) = instant? text := by
    rw [instant?_eq rfl, instant?_eq rfl, trimmed, String.toList_ofList, trim_trim]
  simp only [readInstant, same, read]

end Comparison

namespace Time.LocalTime

variable (time : LocalTime)

theorem trim_writeDate {rest : List Char} (ends : EndsSolid (writeDate time.date ++ rest)) :
    trim (writeDate time.date ++ rest) = writeDate time.date ++ rest := by
  have begins : trimLeft (writeDate time.date ++ rest) = writeDate time.date ++ rest := by
    rw [writeDate_eq, List.append_assoc]
    exact (trimLeft_padded (by decide) time.year_fits _).1
  rw [trim, begins, ends.trimRight_eq]

theorem endsSolid_writeDate : EndsSolid (writeDate time.date) := by
  have day : time.date.day < 10 ^ 2 := Nat.lt_of_le_of_lt time.day_bounds.2 (by decide)
  rw [writeDate_eq]
  exact ((((endsSolid_padded (by decide) day).cons '-').append _).cons '-').append _

theorem endsSolid_chars (mark : Char) : EndsSolid (time.chars mark) := by
  have second : time.second < 10 ^ 2 := Nat.lt_of_le_of_lt time.second_le (by decide)
  have ends : EndsSolid (padded 2 time.second ++ time.fraction) := by
    rw [fraction]
    split_ifs with none
    · rw [List.append_nil]
      exact endsSolid_padded (by decide) second
    · exact ((endsSolid_digits none time.decimal).cons '.').append _
  exact (((((ends.cons ':').append _).cons ':').append _).cons mark).append _

theorem endsSolid_zone (written : Zone) : EndsSolid written.chars := by
  cases written with
  | letter => exact ⟨[], 'Z', rfl, by decide⟩
  | ahead hours minutes | behind hours minutes =>
    have fits : (minutes : Nat) < 10 ^ 2 := Nat.lt_trans minutes.isLt (by decide)
    exact (((endsSolid_padded (by decide) fits).cons ':').append _).cons _

theorem instant?_zone {mark : Char} (marks : mark ∈ ['T', 't', ' ']) (written : Zone) :
    instant? (.ofList (time.chars mark ++ written.chars)) =
      some (time.instant written.seconds) := by
  have trimmed : trim (time.chars mark ++ written.chars) = time.chars mark ++ written.chars := by
    have ends := (endsSolid_zone written).append (time.chars mark)
    simp only [chars, List.append_assoc] at ends ⊢
    exact time.trim_writeDate ends
  rw [instant?_eq (by rw [String.toList_ofList, trimmed]), time.readStrict_zone marks]
  rfl

theorem instant?_naive {mark : Char} (marks : mark ∈ ['T', ' ']) :
    instant? (.ofList (time.chars mark)) = some (time.instant 0) := by
  have trimmed : trim (time.chars mark) = time.chars mark :=
    time.trim_writeDate (time.endsSolid_chars mark)
  rw [instant?_eq (by rw [String.toList_ofList, trimmed])]
  simp at marks
  obtain rfl | rfl := marks
  · rw [time.readStrict_naive (by simp), time.readNaive_passBlanks_letter,
      time.readNaive_chars fun _ => rfl]
    rfl
  · have hour : time.hour < 10 ^ 2 := Nat.lt_of_le_of_lt time.hour_le (by decide)
    rw [time.readStrict_naive (by simp), time.readNaive_chars fun text => ?_]
    · rfl
    · have space : ∀ c ∈ [' '], isBlank c = true := List.all_eq_true.mp (by decide)
      have blank : trimLeft (' ' :: (padded 2 time.hour ++ text)) =
          trimLeft (padded 2 time.hour ++ text) := trimLeft_append space _
      rw [passBlanks, blank, (trimLeft_padded (by decide) hour text).1]

theorem instant?_day :
    instant? (.ofList (writeDate time.date)) = some (.ofLocal time.date .midnight 0) := by
  have ends : EndsSolid (writeDate time.date ++ []) := by simpa using time.endsSolid_writeDate
  have trimmed := time.trim_writeDate ends
  rw [List.append_nil] at trimmed
  rw [instant?_eq (by rw [String.toList_ofList, trimmed]), time.readStrict_day,
    time.readNaive_day.1, time.readNaive_day.2, time.readDay_day]
  rfl

structure Spelled (time : LocalTime) : Prop where
  zoned : ∀ mark ∈ ['T', 't', ' '], ∀ zone : Zone, ∀ text : String,
    Around (time.chars mark ++ zone.chars) text.toList →
      Comparison.readInstant (.string text) = .ok (time.instant zone.seconds)
  naive : ∀ mark ∈ ['T', ' '], ∀ text : String, Around (time.chars mark) text.toList →
    Comparison.readInstant (.string text) = .ok (time.instant 0)
  day : ∀ text : String, Around (writeDate time.date) text.toList →
    Comparison.readInstant (.string text) = .ok (.ofLocal time.date .midnight 0)
  shifted : ∀ offset, time.instant offset =
    ⟨(time.instant 0).seconds - offset, (time.instant 0).nanos⟩

theorem readInstant_around {chars : List Char} {instant : Instant}
    (read : instant? (.ofList chars) = some instant) {text : String}
    (around : Around chars text.toList) :
    Comparison.readInstant (.string text) = .ok instant := by
  rw [← Comparison.readInstant_of_instant? read]
  exact Comparison.readInstant_around (by rwa [String.toList_ofList])

theorem spelled : Spelled time where
  zoned _ marks zone _ around := readInstant_around (time.instant?_zone marks zone) around
  naive _ marks _ around := readInstant_around (time.instant?_naive marks) around
  day _ around := readInstant_around time.instant?_day around
  shifted offset := by simp [instant, Instant.ofLocal]

end Time.LocalTime

end LogSieve
