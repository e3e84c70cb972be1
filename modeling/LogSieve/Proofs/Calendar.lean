import Mathlib.Tactic.SplitIfs
import LogSieve.Time.Calendar

/-! The date of a day is the date whose number the day is. A day lies in the year and in the month
that are found for it, so its date stands in the calendar and counting back gives the day again. -/

namespace LogSieve.Time

def daysInYear (leap : Bool) : Nat := if leap then 366 else 365

theorem isLeap_iff (year : Int) :
    isLeap year = true ↔ year % 4 = 0 ∧ (year % 100 ≠ 0 ∨ year % 400 = 0) := by
  simp [isLeap]

theorem daysBeforeYear_succ (year : Int) :
    daysBeforeYear (year + 1) = daysBeforeYear year + daysInYear (isLeap year) := by
  have fourth : year / 4 = (year - 1) / 4 + if year % 4 = 0 then 1 else 0 := by omega
  have hundredth : year / 100 = (year - 1) / 100 + if year % 100 = 0 then 1 else 0 := by omega
  have last : year / 400 = (year - 1) / 400 + if year % 400 = 0 then 1 else 0 := by omega
  have hundredthOfLast : year % 400 = 0 → year % 100 = 0 := by omega
  have fourthOfHundredth : year % 100 = 0 → year % 4 = 0 := by omega
  have same : year + 1 - 1 = year := by omega
  rw [daysBeforeYear, daysBeforeYear, same, fourth, hundredth, last, daysInYear]
  simp only [isLeap_iff]
  split_ifs <;> omega

theorem daysBeforeYear_mono {early late : Int} (le : early ≤ late) :
    daysBeforeYear early ≤ daysBeforeYear late := by
  obtain ⟨years, rfl⟩ := Int.le.dest le
  clear le
  induction years with
  | zero => exact Int.le_of_eq (congrArg daysBeforeYear (Int.add_zero early).symm)
  | succ years ih =>
    have next := daysBeforeYear_succ (early + years)
    rw [Int.add_assoc] at next
    have same : ((years + 1 : Nat) : Int) = years + 1 := Int.natCast_succ years
    rw [same, next]
    omega

theorem daysInYear_bounds (leap : Bool) : 365 ≤ daysInYear leap ∧ daysInYear leap ≤ 366 := by
  cases leap <;> decide

theorem daysInMonth_le (leap : Bool) (month : Nat) : daysInMonth leap month ≤ 31 := by
  unfold daysInMonth
  split <;> (try split) <;> decide

/-- The mean length of a year puts the guess at the right year or at the one before it. -/
theorem guess_bounds (day : Int) :
    daysBeforeYear (day * 400 / 146097 + 1) ≤ day ∧
      day ≤ daysBeforeYear (day * 400 / 146097 + 1 + 1) + 1 := by
  have low : 146097 * (day * 400 / 146097) ≤ day * 400 := by omega
  have high : day * 400 < 146097 * (day * 400 / 146097 + 1) := by omega
  generalize day * 400 / 146097 = years at low high ⊢
  simp only [daysBeforeYear]
  constructor <;> omega

theorem yearOfDay_spec (day : Int) :
    daysBeforeYear (yearOfDay day) ≤ day ∧
      day < daysBeforeYear (yearOfDay day) + daysInYear (isLeap (yearOfDay day)) := by
  have bounds := guess_bounds day
  simp only [yearOfDay, ← daysBeforeYear_succ]
  generalize day * 400 / 146097 + 1 = guess at bounds ⊢
  have later := daysBeforeYear_succ (guess + 1)
  have long := daysInYear_bounds (isLeap (guess + 1))
  split_ifs with before behind
  · omega
  · omega
  · omega

theorem monthOfDay_spec (leap : Bool) {day : Nat} (inside : day < daysInYear leap) :
    1 ≤ monthOfDay leap day ∧ monthOfDay leap day ≤ 12 ∧
      daysBeforeMonth leap (monthOfDay leap day) ≤ day ∧
      day < daysBeforeMonth leap (monthOfDay leap day) +
        daysInMonth leap (monthOfDay leap day) := by
  have all : ∀ leap, ∀ day < daysInYear leap,
      1 ≤ monthOfDay leap day ∧ monthOfDay leap day ≤ 12 ∧
        daysBeforeMonth leap (monthOfDay leap day) ≤ day ∧
        day < daysBeforeMonth leap (monthOfDay leap day) +
          daysInMonth leap (monthOfDay leap day) := by
    decide +kernel
  exact all leap day inside

namespace Date

def dayOfYear (number : Int) : Nat :=
  (number + epoch - daysBeforeYear (yearOfDay (number + epoch))).toNat

theorem dayOfYear_spec (number : Int) :
    (dayOfYear number : Int) = number + epoch - daysBeforeYear (ofDayNumber number).year ∧
      dayOfYear number < daysInYear (isLeap (ofDayNumber number).year) := by
  have spec := yearOfDay_spec (number + epoch)
  simp only [dayOfYear, ofDayNumber]
  omega

theorem dayNumber_ofDayNumber (number : Int) : (ofDayNumber number).dayNumber = number := by
  obtain ⟨count, inside⟩ := dayOfYear_spec number
  obtain ⟨-, -, begun, -⟩ := monthOfDay_spec _ inside
  have day : (ofDayNumber number).day = dayOfYear number -
      daysBeforeMonth (isLeap (ofDayNumber number).year) (ofDayNumber number).month + 1 := rfl
  have month : (ofDayNumber number).month =
      monthOfDay (isLeap (ofDayNumber number).year) (dayOfYear number) := rfl
  rw [dayNumber, day, month]
  omega

theorem ofDayNumber_valid {number : Int} (early : firstYear ≤ (ofDayNumber number).year)
    (late : (ofDayNumber number).year ≤ lastYear) : (ofDayNumber number).Valid := by
  obtain ⟨-, inside⟩ := dayOfYear_spec number
  obtain ⟨first, last, begun, short⟩ := monthOfDay_spec _ inside
  have day : (ofDayNumber number).day = dayOfYear number -
      daysBeforeMonth (isLeap (ofDayNumber number).year) (ofDayNumber number).month + 1 := rfl
  have month : (ofDayNumber number).month =
      monthOfDay (isLeap (ofDayNumber number).year) (dayOfYear number) := rfl
  refine ⟨early, late, month ▸ first, month ▸ last, ?_, ?_⟩ <;> rw [day, month] <;> omega

theorem valid_of_dayNumber {number : Int}
    (early : (mk firstYear 1 1).dayNumber ≤ number)
    (late : number ≤ (mk lastYear 12 31).dayNumber) : (ofDayNumber number).Valid := by
  obtain ⟨count, inside⟩ := dayOfYear_spec number
  have next := daysBeforeYear_succ (ofDayNumber number).year
  have first : (mk firstYear 1 1).dayNumber = daysBeforeYear firstYear - epoch := by decide
  have last : (mk lastYear 12 31).dayNumber = daysBeforeYear (lastYear + 1) - 1 - epoch := by
    decide
  refine ofDayNumber_valid (Int.not_lt.mp fun before => ?_) (Int.not_lt.mp fun behind => ?_)
  · have earlier : daysBeforeYear ((ofDayNumber number).year + 1) ≤ daysBeforeYear firstYear :=
      daysBeforeYear_mono before
    omega
  · have later : daysBeforeYear (lastYear + 1) ≤ daysBeforeYear (ofDayNumber number).year :=
      daysBeforeYear_mono behind
    omega

end Date

end LogSieve.Time
