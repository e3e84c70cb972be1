import Mathlib.Algebra.Group.Nat.Defs
import LogSieve.Proofs.Calendar
import LogSieve.Proofs.Traversal
import LogSieve.Time.Reader
import LogSieve.Time.Writer

/-! Instants are read as they were written. The numbers of a date and a time of day stand between
marks that are no digits, with zeros in front up to their width, so each is read whole, and the
calendar takes the date back to its day. -/

namespace LogSieve.Time

open Text

/-! ### Numbers of a fixed width -/

def NoDigit : List Char → Prop
  | [] => True
  | c :: _ => c.isDigit = false

theorem digitsValue_eq (digits : List Char) :
    digitsValue digits = Nat.ofDigitChars 10 digits 0 := by
  rw [digitsValue, Nat.ofDigitChars_eq_foldl]
  congr 1
  funext value c
  rw [Nat.mul_comm]
  rfl

theorem padded_spec {width n : Nat} (positive : 0 < width) (fits : n < 10 ^ width) :
    (padded width n).length = width ∧ (∀ c ∈ padded width n, c.isDigit = true) ∧
      digitsValue (padded width n) = n := by
  have short := (Nat.length_toDigits_le_iff (by decide) positive).mpr fits
  refine ⟨?_, fun c member => ?_, ?_⟩
  · rw [padded, List.length_append, List.length_replicate]
    omega
  · rcases List.mem_append.mp member with zero | digit
    · rw [List.eq_of_mem_replicate zero]
      rfl
    · exact Nat.isDigit_of_mem_toDigits (by decide) (by decide) digit
  · rw [digitsValue_eq, padded, Nat.ofDigitChars_append, Nat.ofDigitChars_replicate_zero,
      Nat.mul_zero, Nat.ofDigitChars_ten_toDigits]

theorem length_le_octetCount (text : List Char) : text.length ≤ octetCount text := by
  induction text with
  | nil => exact Nat.le_refl 0
  | cons c rest ih =>
    have positive := c.utf8Size_pos
    simp only [List.length_cons, octetCount]
    omega

theorem number_digits (least most : Nat) {digits : List Char}
    (decimal : ∀ c ∈ digits, c.isDigit = true) (enough : least ≤ digits.length) (rest : List Char)
    (finished : digits.length = most ∨ digits.length ≤ most ∧ NoDigit rest) :
    number least most (digits ++ rest) = .ok (digitsValue digits, rest) := by
  have ended : (rest.take (most - digits.length)).takeWhile Char.isDigit = [] := by
    rcases finished with rfl | ⟨-, finished⟩
    · rw [Nat.sub_self, List.take_zero, List.takeWhile_nil]
    · cases rest with
      | nil => rw [List.take_nil, List.takeWhile_nil]
      | cons c rest =>
        cases most - digits.length with
        | zero => rfl
        | succ more => rw [List.take_succ_cons, List.takeWhile_cons, finished]; rfl
  have taken : ((digits ++ rest).take most).takeWhile Char.isDigit = digits := by
    have inside : digits.length ≤ most := finished.elim Nat.le_of_eq And.left
    rw [List.take_append, List.take_of_length_le inside, List.takeWhile_append_of_pos decimal,
      ended,
      List.append_nil]
  have long : least ≤ octetCount ((digits ++ rest).take least) := by
    refine Nat.le_trans ?_ (length_le_octetCount _)
    rw [List.length_take, List.length_append]
    omega
  rw [number]
  simp only [taken, List.drop_left]
  rw [if_neg (by omega), if_neg (by omega)]

theorem number_padded (least most : Nat) {width n : Nat} (positive : 0 < width)
    (fits : n < 10 ^ width)
    (enough : least ≤ width) (rest : List Char)
    (finished : width = most ∨ width ≤ most ∧ NoDigit rest) :
    number least most (padded width n ++ rest) = .ok (n, rest) := by
  obtain ⟨length, decimal, value⟩ := padded_spec positive fits
  rw [number_digits least most decimal (length.symm ▸ enough) rest (length.symm ▸ finished), value]

/-! ### The parts of a timestamp -/

theorem isBlank_of_isDigit {c : Char} (digit : c.isDigit = true) : isBlank c = false := by
  have code : 48 ≤ c.toNat ∧ c.toNat ≤ 57 := by
    simpa [Char.isDigit, UInt32.le_iff_toNat_le] using digit
  simp only [isBlank, Bool.or_eq_false_iff, Bool.and_eq_false_iff, decide_eq_false_iff_not,
    beq_eq_false_iff_ne]
  omega

theorem trimLeft_cons {c : Char} (rest : List Char) (solid : isBlank c = false) :
    trimLeft (c :: rest) = c :: rest := by
  rw [trimLeft, List.dropWhile_cons, solid]
  rfl

theorem trimLeft_padded {width n : Nat} (positive : 0 < width) (fits : n < 10 ^ width)
    (rest : List Char) :
    trimLeft (padded width n ++ rest) = padded width n ++ rest ∧
      ∃ c more, padded width n ++ rest = c :: more ∧ c.isDigit = true := by
  obtain ⟨length, decimal, -⟩ := padded_spec positive fits
  cases same : padded width n with
  | nil =>
    rw [same] at length
    exact absurd length (Nat.ne_of_lt positive)
  | cons c digits =>
    have digit : c.isDigit = true := decimal c (same ▸ List.mem_cons_self)
    exact ⟨trimLeft_cons _ (isBlank_of_isDigit digit), c, digits ++ rest, rfl, digit⟩

theorem field_padded {least low high n : Nat} (least_le : least ≤ 2) (inside : low ≤ n ∧ n ≤ high)
    (small : high < 100) (rest : List Char) :
    field least 2 low high (padded 2 n ++ rest) = .ok (n, rest) := by
  have read := number_padded least 2 (by decide) (by omega : n < 10 ^ 2) least_le rest (Or.inl rfl)
  have kept : within low high n = .ok n := if_pos inside
  exact bind_eq_ok.mpr ⟨_, read, bind_eq_ok.mpr ⟨_, kept, rfl⟩⟩

theorem looseField_padded {low high n : Nat} (inside : low ≤ n ∧ n ≤ high) (small : high < 100)
    (rest : List Char) : looseField low high (padded 2 n ++ rest) = .ok (n, rest) := by
  rw [looseField, (trimLeft_padded (by decide) (by omega : n < 10 ^ 2) rest).1]
  exact field_padded (by decide) inside small rest

theorem looseYear_padded {year : Nat} (fits : year < 10 ^ 4) (rest : List Char) :
    looseYear (padded 4 year ++ rest) = .ok ((year : Int), rest) := by
  have read := number_padded 1 4 (by decide) fits (by decide) rest (Or.inl rfl)
  obtain ⟨trimmed, c, more, same, digit⟩ := trimLeft_padded (by decide) fits rest
  have inRange : -0x80000000 ≤ (year : Int) ∧ (year : Int) < 0x80000000 := by omega
  rw [looseYear, trimmed]
  refine bind_eq_ok.mpr ⟨((year : Int), rest), ?_, if_pos inRange⟩
  rw [same] at read ⊢
  split
  · next minus => cases minus; exact absurd digit (by decide)
  · next plus => cases plus; exact absurd digit (by decide)
  · exact bind_eq_ok.mpr ⟨_, read, rfl⟩

theorem padded_fits (width n : Nat) :
    ∃ wide, width ≤ wide ∧ n < 10 ^ wide ∧ padded width n = padded wide n := by
  have enough : n < 10 ^ max width (Nat.toDigits 10 n).length := by
    have own : n < 10 ^ (Nat.toDigits 10 n).length :=
      (Nat.length_toDigits_le_iff (by decide) (Nat.length_toDigits_pos)).mp (Nat.le_refl _)
    exact Nat.lt_of_lt_of_le own (Nat.pow_le_pow_right (by decide) (Nat.le_max_right _ _))
  refine ⟨_, Nat.le_max_left _ _, enough, ?_⟩
  rw [padded, padded]
  congr 2
  omega

theorem number_signed (n : Nat) {rest : List Char} (finished : NoDigit rest) :
    number 1 (padded 4 n ++ rest).length (padded 4 n ++ rest) = .ok (n, rest) := by
  obtain ⟨wide, width, fits, same⟩ := padded_fits 4 n
  rw [same]
  have length := (padded_spec (by omega) fits).1
  refine number_padded 1 _ (by omega) fits (by omega) rest (Or.inr ⟨?_, finished⟩)
  rw [List.length_append, length]
  exact Nat.le_add_right _ _

theorem looseYear_writeYear {year : Int} (inRange : -0x80000000 ≤ year ∧ year < 0x80000000)
    {rest : List Char} (finished : NoDigit rest) :
    looseYear (writeYear year ++ rest) = .ok (year, rest) := by
  rw [writeYear]
  split_ifs with short negative
  · have same : (year.toNat : Int) = year := by omega
    rw [looseYear_padded (by omega), same]
  · have same : -(year.natAbs : Int) = year := by omega
    rw [List.cons_append, looseYear, trimLeft_cons _ (by decide)]
    refine bind_eq_ok.mpr ⟨(year, rest), ?_, if_pos inRange⟩
    exact bind_eq_ok.mpr ⟨_, number_signed year.natAbs finished,
      congrArg (fun year => Except.ok (year, rest)) same⟩
  · have same : (year.natAbs : Int) = year := by omega
    rw [List.cons_append, looseYear, trimLeft_cons _ (by decide)]
    refine bind_eq_ok.mpr ⟨(year, rest), ?_, if_pos inRange⟩
    exact bind_eq_ok.mpr ⟨_, number_signed year.natAbs finished,
      congrArg (fun year => Except.ok (year, rest)) same⟩

theorem looseMark_cons (c : Char) (rest : List Char) (solid : isBlank c = false) :
    looseMark c (c :: rest) = .ok ((), rest) := by
  rw [looseMark, trimLeft_cons rest solid, mark, if_pos rfl]

theorem dropWhile_noDigit {rest : List Char} (finished : NoDigit rest) :
    rest.dropWhile Char.isDigit = rest := by
  cases rest with
  | nil => rfl
  | cons c rest => rw [List.dropWhile_cons, finished]; rfl

theorem nanoseconds_digits {digits : List Char} (given : digits ≠ [])
    (decimal : ∀ c ∈ digits, c.isDigit = true) (short : digits.length ≤ 9) {rest : List Char}
    (finished : NoDigit rest) :
    nanoseconds ('.' :: (digits ++ rest)) =
      .ok (digitsValue digits * 10 ^ (9 - digits.length), rest) := by
  have read := number_digits 1 9 decimal (List.length_pos_iff.mpr given) rest
    (Or.inr ⟨short, finished⟩)
  have places : (digits ++ rest).length - rest.length = digits.length := by
    rw [List.length_append]
    omega
  refine bind_eq_ok.mpr ⟨_, read, ?_⟩
  simp only [places, dropWhile_noDigit finished]
  rfl

theorem nanoseconds_padded {width n : Nat} (positive : 0 < width) (narrow : width ≤ 9)
    (fits : n < 10 ^ width) {rest : List Char} (finished : NoDigit rest) :
    nanoseconds ('.' :: (padded width n ++ rest)) = .ok (n * 10 ^ (9 - width), rest) := by
  obtain ⟨length, decimal, value⟩ := padded_spec positive fits
  have given : padded width n ≠ [] := List.length_pos_iff.mp (length.symm ▸ positive)
  rw [nanoseconds_digits given decimal (length.symm ▸ narrow) finished, length, value]

theorem nanoseconds_none {rest : List Char} (noPoint : rest.head? ≠ some '.') :
    nanoseconds rest = .ok (0, rest) :=
  nanoseconds.eq_2 rest fun _ same => noPoint (same ▸ rfl)

theorem separator_letter (rest : List Char) : separator ('T' :: rest) = .ok ((), rest) := rfl

theorem nanoseconds_writeFraction {nanos : Nat} (fits : nanos < 1000000000) {rest : List Char}
    (finished : NoDigit rest) (noPoint : rest.head? ≠ some '.') :
    nanoseconds (writeFraction nanos .needed ++ rest) = .ok (nanos, rest) := by
  rw [writeFraction]
  split_ifs with zero three six
  · subst zero
    rw [List.nil_append, nanoseconds_none noPoint]
  · have whole : nanos / 1000000 * 10 ^ (9 - 3) = nanos := by omega
    rw [List.cons_append, nanoseconds_padded (by decide) (by decide) (by omega) finished, whole]
  · have whole : nanos / 1000 * 10 ^ (9 - 6) = nanos := by omega
    rw [List.cons_append, nanoseconds_padded (by decide) (by decide) (by omega) finished, whole]
  · have whole : nanos * 10 ^ (9 - 9) = nanos := by omega
    rw [List.cons_append, nanoseconds_padded (by decide) (by decide) (by omega) finished, whole]

/-! ### Offsets -/

inductive Zone where
  | letter
  | ahead (hours : Fin 24) (minutes : Fin 60)
  | behind (hours : Fin 24) (minutes : Fin 60)

namespace Zone

def seconds : Zone → Int
  | letter => 0
  | ahead hours minutes => hours * 3600 + minutes * 60
  | behind hours minutes => -(hours * 3600 + minutes * 60)

def chars : Zone → List Char
  | letter => ['Z']
  | ahead hours minutes => '+' :: padded 2 hours ++ ':' :: padded 2 minutes
  | behind hours minutes => '-' :: padded 2 hours ++ ':' :: padded 2 minutes

theorem seconds_bounds (zone : Zone) : -86400 < zone.seconds ∧ zone.seconds < 86400 := by
  cases zone with
  | letter => decide
  | ahead hours minutes | behind hours minutes =>
    have := hours.isLt
    have := minutes.isLt
    simp only [seconds]
    omega

theorem exists_writeOffset {offset : Int} (whole : offset % 60 = 0)
    (short : -86400 < offset ∧ offset < 86400) :
    ∃ zone : Zone, zone.seconds = offset ∧ zone.chars = writeOffset offset := by
  have hours : offset.natAbs / 60 / 60 < 24 := by omega
  have minutes : offset.natAbs / 60 % 60 < 60 := by omega
  rw [writeOffset]
  split_ifs with none negative
  · exact ⟨letter, none.symm, rfl⟩
  · refine ⟨behind ⟨_, hours⟩ ⟨_, minutes⟩, ?_, rfl⟩
    simp only [seconds]
    omega
  · refine ⟨ahead ⟨_, hours⟩ ⟨_, minutes⟩, ?_, rfl⟩
    simp only [seconds]
    omega

end Zone

theorem digitsValue_pair (a b : Char) :
    digitsValue [a, b] = (a.toNat - 48) * 10 + (b.toNat - 48) := by
  simp [digitsValue]

theorem twoDigits_padded {n : Nat} (fits : n < 10 ^ 2) (rest : List Char) :
    ∃ a b, twoDigits (padded 2 n ++ rest) = .ok (a, b, rest) ∧ a.isDigit = true ∧
      b.isDigit = true ∧ digitsValue [a, b] = n := by
  obtain ⟨length, decimal, value⟩ := padded_spec (by decide) fits
  obtain ⟨a, b, two⟩ := List.length_eq_two.mp length
  rw [two] at decimal value ⊢
  have long := length_le_octetCount [a, b]
  refine ⟨a, b, if_neg (Nat.not_lt.mpr long), decimal a (by simp), decimal b (by simp), value⟩

def PassesColon (between : List Char → Except Fault (List Char)) : Prop :=
  ∀ c rest, c.isDigit = true → between (':' :: c :: rest) = .ok (c :: rest)

theorem passesColon_passColon : PassesColon passColon := fun _ _ _ => rfl

theorem passesColon_passColons : PassesColon passColons := by
  intro c rest digit
  have other : c ≠ ':' := by
    rintro rfl
    exact absurd digit (by decide)
  simp [passColons, other, isBlank_of_isDigit digit]

theorem signedOffset_padded {between : List Char → Except Fault (List Char)}
    (passes : PassesColon between) (ahead : Bool) (hours : Fin 24) (minutes : Fin 60)
    (rest : List Char) :
    signedOffset between
        ((if ahead then '+' else '-') :: (padded 2 hours ++ ':' :: (padded 2 minutes ++ rest))) =
      .ok (if ahead then (hours * 3600 + minutes * 60 : Int) else -(hours * 3600 + minutes * 60),
        rest) := by
  have hoursFit : (hours : Nat) < 10 ^ 2 := Nat.lt_trans hours.isLt (by decide)
  have minutesFit : (minutes : Nat) < 10 ^ 2 := Nat.lt_trans minutes.isLt (by decide)
  obtain ⟨a, b, readHours, first, second, hoursValue⟩ :=
    twoDigits_padded hoursFit (':' :: (padded 2 minutes ++ rest))
  obtain ⟨c, d, readMinutes, third, fourth, minutesValue⟩ := twoDigits_padded minutesFit rest
  obtain ⟨-, digit, more, begins, decimal⟩ := trimLeft_padded (by decide) minutesFit rest
  have passed : between (':' :: (padded 2 minutes ++ rest)) = .ok (padded 2 minutes ++ rest) := by
    rw [begins]
    exact passes digit more decimal
  have early : ¬ '6' ≤ c := by
    rw [digitsValue_pair] at minutesValue
    rw [Char.le_def, UInt32.le_iff_toNat_le]
    change ¬ 54 ≤ c.toNat
    have := minutes.isLt
    omega
  -- Both signs lead to the same steps.
  cases ahead
  all_goals
    refine bind_eq_ok.mpr ⟨_, rfl, bind_eq_ok.mpr ⟨_, readHours, ?_⟩⟩
    simp only [first, second, Bool.not_true, Bool.or_false, Bool.false_eq_true, if_false]
    refine bind_eq_ok.mpr ⟨_, passed, bind_eq_ok.mpr ⟨_, readMinutes, ?_⟩⟩
    simp [third, fourth, early, hoursValue, minutesValue]
    rfl

theorem zone_chars {between : List Char → Except Fault (List Char)} (passes : PassesColon between)
    (written : Zone) (rest : List Char) :
    zone between (written.chars ++ rest) = .ok (written.seconds, rest) := by
  cases written with
  | letter => rfl
  | ahead hours minutes =>
    simpa [Zone.chars, Zone.seconds, zone] using signedOffset_padded passes true hours minutes rest
  | behind hours minutes =>
    simpa [Zone.chars, Zone.seconds, zone] using signedOffset_padded passes false hours minutes rest

/-! ### Whole timestamps -/

/-- An instant that clocks can show, in a year of four digits. Only the last second of a minute can
have another one added behind it. -/
structure Instant.Shown (instant : Instant) : Prop where
  year : 0 ≤ (instant.toLocal 0).1.year ∧ (instant.toLocal 0).1.year ≤ 9999
  clock : instant.nanos < 1000000000 ∨
    instant.seconds % 60 = 59 ∧ instant.nanos < 2000000000

theorem Clock.ofSecondOfDay_spec (second nanos : Nat) (day : second < 86400)
    (shown : nanos < 1000000000 ∨ second % 60 = 59 ∧ nanos < 2000000000) :
    let clock := ofSecondOfDay second nanos
    clock.hour ≤ 23 ∧ clock.minute ≤ 59 ∧ clock.second ≤ 60 ∧ clock.nanos < 1000000000 ∧
      clock.secondOfDay = second ∧ clock.nanosOfSecond = nanos := by
  simp only [ofSecondOfDay, secondOfDay, nanosOfSecond]
  split <;> dsimp only <;> refine ⟨?_, ?_, ?_, ?_, ?_, ?_⟩ <;> (try split) <;> omega

theorem dayNumber_bounds {number : Int} (early : 0 ≤ (Date.ofDayNumber number).year)
    (late : (Date.ofDayNumber number).year ≤ 9999) :
    (Date.mk firstYear 1 1).dayNumber ≤ number ∧ number ≤ (Date.mk lastYear 12 31).dayNumber := by
  obtain ⟨count, inside⟩ := Date.dayOfYear_spec number
  have long := (daysInYear_bounds (isLeap (Date.ofDayNumber number).year)).2
  have first : (Date.mk firstYear 1 1).dayNumber ≤ -1000000 := by decide
  have last : 4000000 ≤ (Date.mk lastYear 12 31).dayNumber := by decide
  simp only [daysBeforeYear, epoch] at count
  omega

/-- An instant of a day in the calendar. Only the last second of a minute can have another one added
behind it. -/
structure Instant.Dated (instant : Instant) : Prop where
  day : (Date.mk firstYear 1 1).dayNumber ≤ instant.seconds / 86400 ∧
    instant.seconds / 86400 ≤ (Date.mk lastYear 12 31).dayNumber
  clock : instant.nanos < 1000000000 ∨
    instant.seconds % 60 = 59 ∧ instant.nanos < 2000000000

theorem Instant.Shown.dated {instant : Instant} (shown : instant.Shown) : instant.Dated := by
  obtain ⟨early, late⟩ := shown.year
  have bounds := dayNumber_bounds early late
  rw [Int.add_zero] at bounds
  exact ⟨bounds, shown.clock⟩

theorem Instant.Dated.valid {instant : Instant} (dated : instant.Dated) :
    (instant.toLocal 0).1.Valid := by
  have inside := dated.day
  rw [← Int.add_zero instant.seconds] at inside
  exact Date.valid_of_dayNumber inside.1 inside.2

structure Stamp.Dated (stamp : Stamp) : Prop where
  instant : stamp.instant.Dated
  shown : (stamp.instant.toLocal stamp.offset).1.Valid
  whole : stamp.offset % 60 = 0
  short : -86400 < stamp.offset ∧ stamp.offset < 86400

theorem Instant.Dated.utc {instant : Instant} (dated : instant.Dated) :
    (Stamp.utc instant).Dated where
  instant := dated
  shown := dated.valid
  whole := by rfl
  short := (by decide : -86400 < (0 : Int) ∧ (0 : Int) < 86400)

namespace Stamp.Dated

variable {stamp : Stamp}

theorem clock (dated : stamp.Dated) : stamp.instant.nanos < 1000000000 ∨
    (stamp.instant.seconds + stamp.offset) % 60 = 59 ∧ stamp.instant.nanos < 2000000000 := by
  have clock := dated.instant.clock
  have whole := dated.whole
  omega

theorem ofLocal_toLocal (dated : stamp.Dated) :
    Instant.ofLocal (stamp.instant.toLocal stamp.offset).1 (stamp.instant.toLocal stamp.offset).2
      stamp.offset = stamp.instant := by
  obtain ⟨⟨seconds, nanos⟩, offset⟩ := stamp
  have clock : nanos < 1000000000 ∨ (seconds + offset) % 60 = 59 ∧ nanos < 2000000000 :=
    dated.clock
  obtain ⟨-, -, -, -, second, nano⟩ :=
    Clock.ofSecondOfDay_spec ((seconds + offset) % 86400).toNat nanos (by omega) (by omega)
  simp only [Instant.toLocal, Instant.ofLocal, Date.dayNumber_ofDayNumber, second, nano,
    Instant.mk.injEq, and_true]
  omega

theorem stampOf_toLocal (dated : stamp.Dated) :
    stampOf (stamp.instant.toLocal stamp.offset).1.year
      (stamp.instant.toLocal stamp.offset).1.month (stamp.instant.toLocal stamp.offset).1.day
      (stamp.instant.toLocal stamp.offset).2 stamp.offset = .ok stamp := by
  have short := dated.short
  refine bind_eq_ok.mpr ⟨(stamp.instant.toLocal stamp.offset).1, if_pos dated.shown, ?_⟩
  rw [if_neg (by omega)]
  simp only [dated.ofLocal_toLocal]
  exact if_pos dated.instant.day

end Stamp.Dated

theorem Zone.begins (zone : Zone) :
    (zone.chars.take 3).map Char.toUpper ≠ ['U', 'T', 'C'] ∧ trimLeft zone.chars = zone.chars ∧
      NoDigit zone.chars ∧ zone.chars.head? ≠ some '.' := by
  cases zone <;> simp [chars, trimLeft, NoDigit, isBlank]

theorem readRelaxed_chars {stamp : Stamp} (dated : stamp.Dated) :
    readRelaxed (stamp.chars .needed) = .ok stamp := by
  have stamped := dated.stampOf_toLocal
  obtain ⟨firstYear, lastYear, firstMonth, lastMonth, firstDay, lastDay⟩ := dated.shown
  have lastDay := Nat.le_trans lastDay (daysInMonth_le _ _)
  obtain ⟨hour, minute, second, nanos, -, -⟩ : _ ∧ _ ∧ _ ∧ _ ∧ _ ∧ _ :=
    Clock.ofSecondOfDay_spec ((stamp.instant.seconds + stamp.offset) % 86400).toNat
      stamp.instant.nanos (by omega) (by have clock := dated.clock; omega)
  obtain ⟨written, sameOffset, sameChars⟩ := Zone.exists_writeOffset dated.whole dated.short
  have inRange : -0x80000000 ≤ (stamp.instant.toLocal stamp.offset).1.year ∧
      (stamp.instant.toLocal stamp.offset).1.year < 0x80000000 :=
    ⟨Int.le_trans (by decide) firstYear, Int.lt_of_le_of_lt lastYear (by decide)⟩
  have chars : stamp.chars .needed =
      writeDate (stamp.instant.toLocal stamp.offset).1 ++
        'T' :: writeClock (stamp.instant.toLocal stamp.offset).2 .needed ++ written.chars :=
    sameChars ▸ rfl
  change (stamp.instant.toLocal stamp.offset).2.hour ≤ 23 at hour
  change (stamp.instant.toLocal stamp.offset).2.minute ≤ 59 at minute
  change (stamp.instant.toLocal stamp.offset).2.second ≤ 60 at second
  change (stamp.instant.toLocal stamp.offset).2.nanos < 1000000000 at nanos
  generalize (stamp.instant.toLocal stamp.offset).1 = date at *
  generalize (stamp.instant.toLocal stamp.offset).2 = clock at *
  obtain ⟨named, solid, noDigit, noPoint⟩ := written.begins
  have zoned := zone_chars passesColon_passColons written []
  rw [List.append_nil] at zoned
  simp only [chars, writeDate, writeClock, List.append_assoc, List.cons_append]
  refine bind_eq_ok.mpr ⟨_, looseYear_writeYear inRange rfl, ?_⟩
  refine bind_eq_ok.mpr ⟨_, looseMark_cons '-' _ (by decide), ?_⟩
  refine bind_eq_ok.mpr ⟨_, looseField_padded ⟨firstMonth, lastMonth⟩ (by decide) _, ?_⟩
  refine bind_eq_ok.mpr ⟨_, looseMark_cons '-' _ (by decide), ?_⟩
  refine bind_eq_ok.mpr ⟨_, looseField_padded ⟨firstDay, lastDay⟩ (by decide) _, ?_⟩
  refine bind_eq_ok.mpr ⟨_, separator_letter _, ?_⟩
  refine bind_eq_ok.mpr ⟨_, looseField_padded ⟨Nat.zero_le _, hour⟩ (by decide) _, ?_⟩
  refine bind_eq_ok.mpr ⟨_, looseMark_cons ':' _ (by decide), ?_⟩
  refine bind_eq_ok.mpr ⟨_, looseField_padded ⟨Nat.zero_le _, minute⟩ (by decide) _, ?_⟩
  refine bind_eq_ok.mpr ⟨_, looseMark_cons ':' _ (by decide), ?_⟩
  refine bind_eq_ok.mpr ⟨_, looseField_padded ⟨Nat.zero_le _, second⟩ (by decide) _, ?_⟩
  refine bind_eq_ok.mpr ⟨_, nanoseconds_writeFraction nanos noDigit noPoint, ?_⟩
  dsimp only
  rw [solid, if_neg named]
  refine bind_eq_ok.mpr ⟨_, zoned, ?_⟩
  simp [trimLeft, sameOffset, stamped]

end LogSieve.Time
