import LogSieve.Time.Instant

/-! Writing instants as local date, time and offset. A year outside the four digits carries its
sign. -/

namespace LogSieve.Time

def padded (width n : Nat) : List Char :=
  let digits := Nat.toDigits 10 n
  List.replicate (width - digits.length) '0' ++ digits

inductive Places where
  | needed
  | three
  | six
  | none

def writeYear (year : Int) : List Char :=
  if 0 ≤ year ∧ year ≤ 9999 then padded 4 year.toNat
  else (if year < 0 then '-' else '+') :: padded 4 year.natAbs

def writeFraction (nanos : Nat) : Places → List Char
  | .none => []
  | .three => '.' :: padded 3 (nanos / 1000000)
  | .six => '.' :: padded 6 (nanos / 1000)
  | .needed =>
    if nanos = 0 then []
    else if nanos % 1000000 = 0 then '.' :: padded 3 (nanos / 1000000)
    else if nanos % 1000 = 0 then '.' :: padded 6 (nanos / 1000)
    else '.' :: padded 9 nanos

def writeOffset (offset : Int) : List Char :=
  if offset = 0 then ['Z']
  else
    let minutes := offset.natAbs / 60
    (if offset < 0 then '-' else '+') :: padded 2 (minutes / 60) ++ ':' :: padded 2 (minutes % 60)

def writeDate (date : Date) : List Char :=
  writeYear date.year ++ '-' :: padded 2 date.month ++ '-' :: padded 2 date.day

def writeClock (clock : Clock) (places : Places) : List Char :=
  padded 2 clock.hour ++ ':' :: padded 2 clock.minute ++ ':' :: padded 2 clock.second ++
    writeFraction clock.nanos places

def Stamp.chars (stamp : Stamp) (places : Places) : List Char :=
  let (date, clock) := stamp.instant.toLocal stamp.offset
  writeDate date ++ 'T' :: writeClock clock places ++ writeOffset stamp.offset

def Stamp.write (stamp : Stamp) (places : Places) : String := String.ofList (stamp.chars places)

def Instant.write (instant : Instant) (places : Places) : String := (Stamp.utc instant).write places

end LogSieve.Time
