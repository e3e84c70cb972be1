import Mathlib.Tactic.Tauto
import LogSieve.Proofs.Calendar
import LogSieve.Time.Instant

/-! The order of dates and times. Days are counted in the order of the calendar, every day of it has
a number of its own, and the instants at which clocks of one offset show two local times are ordered
as the local times are, from the year down to the nanosecond. -/

namespace LogSieve.Time

theorem daysBeforeMonth_le (leap : Bool) {early late : Nat} (first : 1 ≤ early) (le : early < late)
    (last : late ≤ 12) :
    daysBeforeMonth leap early + daysInMonth leap early ≤ daysBeforeMonth leap late := by
  have all : ∀ leap, ∀ late ≤ 12, ∀ early < late, 1 ≤ early →
      daysBeforeMonth leap early + daysInMonth leap early ≤ daysBeforeMonth leap late := by
    decide +kernel
  exact all leap late last early le first

theorem daysBeforeMonth_le_daysInYear (leap : Bool) {month : Nat} (last : month ≤ 12) :
    daysBeforeMonth leap month + daysInMonth leap month ≤ daysInYear leap := by
  have all : ∀ leap, ∀ month ≤ 12,
      daysBeforeMonth leap month + daysInMonth leap month ≤ daysInYear leap := by
    decide +kernel
  exact all leap month last

namespace Date

/-- Earlier in the calendar: by year, then by month, then by day. -/
def figures (date : Date) : List Int := [date.year, date.month, date.day]

theorem figures_lt_iff {first second : Date} : first.figures < second.figures ↔
    first.year < second.year ∨ first.year = second.year ∧
      (first.month < second.month ∨ first.month = second.month ∧ first.day < second.day) := by
  simp only [figures, List.cons_lt_cons_iff, Int.ofNat_lt, Int.natCast_inj, List.not_lt_nil,
    and_false, or_false]

theorem dayNumber_lt_of_year {first second : Date} (valid : first.Valid) (valid' : second.Valid)
    (earlier : first.year < second.year) : first.dayNumber < second.dayNumber := by
  obtain ⟨-, -, -, lastMonth, -, lastDay⟩ := valid
  obtain ⟨-, -, -, -, firstDay, -⟩ := valid'
  have inYear := daysBeforeMonth_le_daysInYear (isLeap first.year) lastMonth
  have years : daysBeforeYear (first.year + 1) ≤ daysBeforeYear second.year :=
    daysBeforeYear_mono earlier
  rw [daysBeforeYear_succ] at years
  simp only [dayNumber]
  omega

theorem dayNumber_lt_of_month {first second : Date} (valid : first.Valid) (valid' : second.Valid)
    (year : first.year = second.year) (earlier : first.month < second.month) :
    first.dayNumber < second.dayNumber := by
  obtain ⟨-, -, firstMonth, -, -, lastDay⟩ := valid
  obtain ⟨-, -, -, lastMonth, firstDay, -⟩ := valid'
  have months := daysBeforeMonth_le (isLeap first.year) firstMonth earlier lastMonth
  simp only [dayNumber, ← year]
  omega

theorem dayNumber_lt_of_figures {first second : Date} (valid : first.Valid) (valid' : second.Valid)
    (earlier : first.figures < second.figures) : first.dayNumber < second.dayNumber := by
  obtain year | ⟨year, month | ⟨month, day⟩⟩ := figures_lt_iff.mp earlier
  · exact dayNumber_lt_of_year valid valid' year
  · exact dayNumber_lt_of_month valid valid' year month
  · simp only [dayNumber, year, month]
    omega

theorem eq_or_figures_lt (first second : Date) :
    first = second ∨ first.figures < second.figures ∨ second.figures < first.figures := by
  obtain ⟨year, month, day⟩ := first
  obtain ⟨year', month', day'⟩ := second
  simp only [figures_lt_iff, mk.injEq]
  omega

theorem dayNumber_lt_iff {first second : Date} (valid : first.Valid) (valid' : second.Valid) :
    first.dayNumber < second.dayNumber ↔ first.figures < second.figures := by
  refine ⟨fun less => ?_, dayNumber_lt_of_figures valid valid'⟩
  obtain rfl | earlier | later := eq_or_figures_lt first second
  · omega
  · exact earlier
  · have reversed := dayNumber_lt_of_figures valid' valid later
    omega

theorem dayNumber_injective {first second : Date} (valid : first.Valid) (valid' : second.Valid)
    (same : first.dayNumber = second.dayNumber) : first = second := by
  obtain equal | earlier | later := eq_or_figures_lt first second
  · exact equal
  · have apart := dayNumber_lt_of_figures valid valid' earlier
    omega
  · have apart := dayNumber_lt_of_figures valid' valid later
    omega

theorem ofDayNumber_dayNumber {date : Date} (valid : date.Valid) :
    ofDayNumber date.dayNumber = date := by
  have early : ¬ date.figures < (mk firstYear 1 1).figures := by
    obtain ⟨firstYear, -, firstMonth, -, firstDay, -⟩ := valid
    simp only [figures_lt_iff]
    omega
  have late : ¬ (mk lastYear 12 31).figures < date.figures := by
    obtain ⟨-, lastYear, -, lastMonth, -, lastDay⟩ := valid
    have short := daysInMonth_le (isLeap date.year) date.month
    simp only [figures_lt_iff]
    omega
  rw [← dayNumber_lt_iff valid (by decide), Int.not_lt] at early
  rw [← dayNumber_lt_iff (by decide) valid, Int.not_lt] at late
  exact dayNumber_injective (valid_of_dayNumber early late) valid (dayNumber_ofDayNumber _)

theorem figures_append_lt_iff {first second : Date} {behind behind' : List Int} :
    first.figures ++ behind < second.figures ++ behind' ↔
      first.figures < second.figures ∨ first = second ∧ behind < behind' := by
  obtain ⟨year, month, day⟩ := first
  obtain ⟨year', month', day'⟩ := second
  rw [figures_lt_iff]
  simp only [figures, List.cons_append, List.nil_append, List.cons_lt_cons_iff, Int.ofNat_lt,
    Int.natCast_inj, mk.injEq]
  tauto

end Date

/-! ### Local times -/

namespace Clock

structure Plain (clock : Clock) : Prop where
  hour : clock.hour ≤ 23
  minute : clock.minute ≤ 59
  second : clock.second ≤ 59

def figures (clock : Clock) : List Int := [clock.hour, clock.minute, clock.second, clock.nanos]

theorem figures_lt_iff {first second : Clock} (plain : first.Plain) (plain' : second.Plain) :
    first.figures < second.figures ↔ first.secondOfDay < second.secondOfDay ∨
      first.secondOfDay = second.secondOfDay ∧ first.nanosOfSecond < second.nanosOfSecond := by
  obtain ⟨-, minute, lastSecond⟩ := plain
  obtain ⟨-, minute', lastSecond'⟩ := plain'
  have unadded : first.second ≠ 60 := by omega
  have unadded' : second.second ≠ 60 := by omega
  simp [figures, List.cons_lt_cons_iff, secondOfDay, nanosOfSecond, unadded, unadded']
  omega

theorem secondOfDay_lt {clock : Clock} (plain : clock.Plain) : clock.secondOfDay < 86400 := by
  obtain ⟨hour, minute, -⟩ := plain
  simp only [secondOfDay]
  omega

end Clock

theorem Instant.before_iff (a b : Instant) : a.before b = true ↔
    a.seconds < b.seconds ∨ a.seconds = b.seconds ∧ a.nanos < b.nanos := by
  simp [before]

theorem before_ofLocal_iff {date date' : Date} {clock clock' : Clock} (valid : date.Valid)
    (valid' : date'.Valid) (plain : clock.Plain) (plain' : clock'.Plain) (offset : Int) :
    (Instant.ofLocal date clock offset).before (Instant.ofLocal date' clock' offset) = true ↔
      date.figures ++ clock.figures < date'.figures ++ clock'.figures := by
  have inDay := Clock.secondOfDay_lt plain
  have inDay' := Clock.secondOfDay_lt plain'
  have sameDay : date.dayNumber = date'.dayNumber ↔ date = date' :=
    ⟨Date.dayNumber_injective valid valid', congrArg Date.dayNumber⟩
  rw [Date.figures_append_lt_iff, ← sameDay, ← Date.dayNumber_lt_iff valid valid',
    Clock.figures_lt_iff plain plain']
  simp only [Instant.before_iff, Instant.ofLocal]
  omega

end LogSieve.Time
