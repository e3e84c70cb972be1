import LogSieve.Time.Calendar

/-! Instants. A second that is added at the end of a minute counts as the second before it with a
thousand million nanoseconds more, so instants are ordered by second first and nanosecond then. -/

namespace LogSieve.Time

structure Instant where
  seconds : Int
  nanos : Nat
  deriving DecidableEq, Repr

namespace Instant

def before (a b : Instant) : Bool :=
  a.seconds < b.seconds || (a.seconds == b.seconds && a.nanos < b.nanos)

theorem before_irrefl (a : Instant) : a.before a = false := by simp [before]

theorem before_trans {a b c : Instant} (hab : a.before b) (hbc : b.before c) : a.before c := by
  simp only [before, Bool.or_eq_true, Bool.and_eq_true, beq_iff_eq, decide_eq_true_eq] at *
  omega

theorem before_or_eq_or_after (a b : Instant) : a.before b = true ∨ a = b ∨ b.before a = true := by
  obtain ⟨s, n⟩ := a
  obtain ⟨t, m⟩ := b
  simp only [before, Bool.or_eq_true, Bool.and_eq_true, beq_iff_eq, decide_eq_true_eq, mk.injEq]
  omega

end Instant

/-- A time of day; the second 60 is the added one. -/
structure Clock where
  hour : Nat
  minute : Nat
  second : Nat
  nanos : Nat
  deriving DecidableEq, Repr

namespace Clock

def midnight : Clock := ⟨0, 0, 0, 0⟩

def secondOfDay (clock : Clock) : Nat := clock.hour * 3600 + clock.minute * 60 + min clock.second 59

/-- Nanoseconds into the second, with the added second folded into the one before it. -/
def nanosOfSecond (clock : Clock) : Nat :=
  if clock.second = 60 then clock.nanos + 1000000000 else clock.nanos

def ofSecondOfDay (second nanos : Nat) : Clock :=
  if 1000000000 ≤ nanos then
    ⟨second / 3600, second / 60 % 60, second % 60 + 1, nanos - 1000000000⟩
  else ⟨second / 3600, second / 60 % 60, second % 60, nanos⟩

end Clock

/-- The instant at which clocks `offset` seconds ahead show this date and time. -/
def Instant.ofLocal (date : Date) (clock : Clock) (offset : Int) : Instant :=
  ⟨date.dayNumber * 86400 + clock.secondOfDay - offset, clock.nanosOfSecond⟩

def Instant.toLocal (instant : Instant) (offset : Int) : Date × Clock :=
  let shown := instant.seconds + offset
  (Date.ofDayNumber (shown / 86400), Clock.ofSecondOfDay (shown % 86400).toNat instant.nanos)

structure Stamp where
  instant : Instant
  offset : Int
  deriving DecidableEq, Repr

def Stamp.utc (instant : Instant) : Stamp := ⟨instant, 0⟩

end LogSieve.Time
