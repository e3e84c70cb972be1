/-! The civil calendar, continued without a gap in both directions. Days are counted from the first
day of 1970. -/

namespace LogSieve.Time

structure Date where
  year : Int
  month : Nat
  day : Nat
  deriving DecidableEq, Repr

def isLeap (year : Int) : Bool := year % 4 == 0 && (year % 100 != 0 || year % 400 == 0)

/-- Days from the first day of year 1 to the first day of `year`. -/
def daysBeforeYear (year : Int) : Int :=
  let past := year - 1
  365 * past + past / 4 - past / 100 + past / 400

def daysBeforeMonth (leap : Bool) (month : Nat) : Nat :=
  let common := match month with
    | 2 => 31 | 3 => 59 | 4 => 90 | 5 => 120 | 6 => 151 | 7 => 181
    | 8 => 212 | 9 => 243 | 10 => 273 | 11 => 304 | 12 => 334 | _ => 0
  if leap && 2 < month then common + 1 else common

def daysInMonth (leap : Bool) : Nat → Nat
  | 2 => if leap then 29 else 28
  | 4 | 6 | 9 | 11 => 30
  | _ => 31

def epoch : Int := 719162

def firstYear : Int := -262143

def lastYear : Int := 262142

namespace Date

def Valid (date : Date) : Prop :=
  firstYear ≤ date.year ∧ date.year ≤ lastYear ∧ 1 ≤ date.month ∧ date.month ≤ 12 ∧
    1 ≤ date.day ∧ date.day ≤ daysInMonth (isLeap date.year) date.month

instance (date : Date) : Decidable date.Valid := inferInstanceAs (Decidable (_ ∧ _))

def dayNumber (date : Date) : Int :=
  daysBeforeYear date.year + daysBeforeMonth (isLeap date.year) date.month + date.day - 1 - epoch

end Date

/-- The year that holds a day counted from the first day of year 1. The mean length of a year puts
the guess at most one year off. -/
def yearOfDay (day : Int) : Int :=
  let guess := day * 400 / 146097 + 1
  if day < daysBeforeYear guess then guess - 1
  else if daysBeforeYear (guess + 1) ≤ day then guess + 1
  else guess

def monthOfDay (leap : Bool) (day : Nat) : Nat :=
  ((List.range 11).filter fun before => daysBeforeMonth leap (before + 2) ≤ day).length + 1

def Date.ofDayNumber (number : Int) : Date :=
  let day := number + epoch
  let year := yearOfDay day
  let rest := (day - daysBeforeYear year).toNat
  let month := monthOfDay (isLeap year) rest
  ⟨year, month, rest - daysBeforeMonth (isLeap year) month + 1⟩

end LogSieve.Time
