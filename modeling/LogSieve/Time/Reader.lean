import LogSieve.Text.Blank
import LogSieve.Text.Utf8
import LogSieve.Time.Instant

/-! Reading dates and times. The strict form has fixed widths and an offset; the relaxed form
allows blanks between its parts, short numbers and a signed year; the naive forms have no offset
and are taken as UTC. -/

namespace LogSieve.Time

open Text

inductive Fault where
  | outOfRange
  | impossible
  | tooShort
  | tooLong
  | invalid
  deriving DecidableEq, Repr

namespace Fault

def message : Fault → String
  | outOfRange => "input is out of range"
  | impossible => "no possible date and time matching input"
  | tooShort => "premature end of input"
  | tooLong => "trailing input"
  | invalid => "input contains invalid characters"

end Fault

abbrev Scan (α : Type) := List Char → Except Fault (α × List Char)

def digitsValue (digits : List Char) : Nat :=
  digits.foldl (fun value c => value * 10 + (c.toNat - 48)) 0

def number (least most : Nat) : Scan Nat := fun text =>
  let digits := (text.take most).takeWhile Char.isDigit
  if octetCount (text.take least) < least then .error .tooShort
  else if digits.length < least then .error .invalid
  else .ok (digitsValue digits, text.drop digits.length)

def mark (c : Char) : Scan Unit
  | [] => .error .tooShort
  | d :: rest => if d = c then .ok ((), rest) else .error .invalid

def separator : Scan Unit
  | [] => .error .tooShort
  | c :: rest => if c = 't' ∨ c = 'T' ∨ c = ' ' then .ok ((), rest) else .error .invalid

def within (low high : Nat) (value : Nat) : Except Fault Nat :=
  if low ≤ value ∧ value ≤ high then .ok value else .error .outOfRange

/-- Nine places behind a point, further ones dropped; nothing where there is no point. -/
def nanoseconds : Scan Nat
  | '.' :: rest => do
    let (value, after) ← number 1 9 rest
    let places := rest.length - after.length
    return (value * Nat.pow 10 (9 - places), after.dropWhile Char.isDigit)
  | rest => .ok (0, rest)

def field (least most low high : Nat) : Scan Nat := fun text => do
  let (value, rest) ← number least most text
  return (← within low high value, rest)

def checkedDate (year : Int) (month day : Nat) : Except Fault Date :=
  let date : Date := ⟨year, month, day⟩
  if date.Valid then .ok date else .error .outOfRange

/-- The instant of a local time, if its day is in the calendar there and in UTC. -/
def stampOf (year : Int) (month day : Nat) (clock : Clock) (offset : Int) : Except Fault Stamp := do
  let date ← checkedDate year month day
  if 86400 ≤ offset ∨ offset ≤ -86400 then .error .outOfRange
  else
    let instant := Instant.ofLocal date clock offset
    let day := instant.seconds / 86400
    if (Date.mk firstYear 1 1).dayNumber ≤ day ∧ day ≤ (Date.mk lastYear 12 31).dayNumber then
      .ok ⟨instant, offset⟩
    else .error .impossible

def twoDigits (text : List Char) : Except Fault (Char × Char × List Char) :=
  if octetCount (text.take 2) < 2 then .error .tooShort
  else match text with
    | a :: b :: rest => .ok (a, b, rest)
    | _ => .error .invalid

def signedOffset (between : List Char → Except Fault (List Char)) : Scan Int := fun text => do
  let (ahead, text) ← match text with
    | '+' :: rest => .ok (true, rest)
    | '-' :: rest => .ok (false, rest)
    | '−' :: rest => .ok (false, rest)
    | _ :: _ => .error .invalid
    | [] => .error .tooShort
  let (a, b, text) ← twoDigits text
  if !a.isDigit || !b.isDigit then throw .invalid
  let (c, d, text) ← twoDigits (← between text)
  if !c.isDigit || !d.isDigit then throw .invalid
  if '6' ≤ c then throw .outOfRange
  let seconds : Int := digitsValue [a, b] * 3600 + digitsValue [c, d] * 60
  return (if ahead then seconds else -seconds, text)

def zone (between : List Char → Except Fault (List Char)) : Scan Int
  | 'Z' :: rest => .ok (0, rest)
  | 'z' :: rest => .ok (0, rest)
  | text => signedOffset between text

def passColon (text : List Char) : Except Fault (List Char) := do return (← mark ':' text).2

def passColons (text : List Char) : Except Fault (List Char) :=
  .ok (text.dropWhile fun c => c = ':' || isBlank c)

/-- Four, two and two digits, and the time with two each; the offset is less than a day. -/
def readStrict (chars : List Char) : Except Fault Stamp := do
  let (year, text) ← number 4 4 chars
  let (month, text) ← field 2 2 1 12 (← mark '-' text).2
  let (day, text) ← field 2 2 1 31 (← mark '-' text).2
  let (hour, text) ← field 2 2 0 23 (← separator text).2
  let (minute, text) ← field 2 2 0 59 (← mark ':' text).2
  let (second, text) ← field 2 2 0 60 (← mark ':' text).2
  let (nanos, text) ← nanoseconds text
  let (offset, text) ← zone passColon text
  if 86400 ≤ offset ∨ offset ≤ -86400 then throw .outOfRange
  if !text.isEmpty then throw .tooLong
  stampOf year month day ⟨hour, minute, second, nanos⟩ offset

/-- A year of at most four digits, or of any number of them behind a sign. -/
def looseYear (text : List Char) : Except Fault (Int × List Char) := do
  let (year, rest) ← (match trimLeft text with
    | '-' :: rest => do
      let (value, after) ← number 1 rest.length rest
      return (-(value : Int), after)
    | '+' :: rest => do
      let (value, after) ← number 1 rest.length rest
      return ((value : Int), after)
    | rest => do
      let (value, after) ← number 1 4 rest
      return ((value : Int), after) : Except Fault (Int × List Char))
  if -0x80000000 ≤ year ∧ year < 0x80000000 then return (year, rest) else throw .outOfRange

def looseField (low high : Nat) : Scan Nat := fun text => field 1 2 low high (trimLeft text)

def looseMark (c : Char) : Scan Unit := fun text => mark c (trimLeft text)

def readRelaxed (chars : List Char) : Except Fault Stamp := do
  let (year, text) ← looseYear chars
  let (month, text) ← looseField 1 12 (← looseMark '-' text).2
  let (day, text) ← looseField 1 31 (← looseMark '-' text).2
  let (hour, text) ← looseField 0 23 (← separator text).2
  let (minute, text) ← looseField 0 59 (← looseMark ':' text).2
  let (second, text) ← looseField 0 60 (← looseMark ':' text).2
  let (nanos, text) ← nanoseconds text
  let text := trimLeft text
  let (offset, text) ←
    if (text.take 3).map Char.toUpper = ['U', 'T', 'C'] then .ok (0, text.drop 3)
    else zone passColons text
  if !(trimLeft text).isEmpty then throw .tooLong
  stampOf year month day ⟨hour, minute, second, nanos⟩ offset

def looseDate (chars : List Char) : Except Fault ((Int × Nat × Nat) × List Char) := do
  let (year, text) ← looseYear chars
  let (month, text) ← looseField 1 12 (← mark '-' text).2
  let (day, text) ← looseField 1 31 (← mark '-' text).2
  return ((year, month, day), text)

def readNaive (between : List Char → Except Fault (List Char)) (chars : List Char) :
    Except Fault Instant := do
  let ((year, month, day), text) ← looseDate chars
  let (hour, text) ← looseField 0 23 (← between text)
  let (minute, text) ← looseField 0 59 (← mark ':' text).2
  let (second, text) ← looseField 0 60 (← mark ':' text).2
  let (nanos, text) ← nanoseconds text
  if !text.isEmpty then throw .tooLong
  let date ← checkedDate year month day
  return Instant.ofLocal date ⟨hour, minute, second, nanos⟩ 0

def passBlanks (text : List Char) : Except Fault (List Char) := .ok (trimLeft text)

def passLetter (text : List Char) : Except Fault (List Char) := do return (← mark 'T' text).2

def readDay (chars : List Char) : Except Fault Instant := do
  let ((year, month, day), text) ← looseDate chars
  if !text.isEmpty then throw .tooLong
  let date ← checkedDate year month day
  return Instant.ofLocal date .midnight 0

/-- The instant that a text names in any of the accepted forms, tried in turn. -/
def instant? (text : String) : Option Instant :=
  let chars := trim text.toList
  match readStrict chars, readNaive passBlanks chars, readNaive passLetter chars, readDay chars with
  | .ok stamp, _, _, _ => some stamp.instant
  | _, .ok instant, _, _ => some instant
  | _, _, .ok instant, _ => some instant
  | _, _, _, .ok instant => some instant
  | _, _, _, _ => none

def stamp (text : String) : Except String Stamp :=
  (readRelaxed text.toList).mapError Fault.message

end LogSieve.Time
