import LogSieve.Proofs.OperatorLaws
import LogSieve.Proofs.Spellings

/-! Times are judged by their instants. An operand of times says no more than which instant is read
of it, or of each of its members, and a record no more than its own instant. So all spellings of a
time are one operand, and the order that decides is that of the calendar. -/

namespace LogSieve

namespace Comparison

variable {α : Type}

/-- What is read of an operand: of a list, what is read of each member. -/
inductive Gist (α : Type) where
  | one (value : Option α)
  | list (values : List (Option α))

def gist (read : Json → Except String α) : Json → Gist α
  | .array items => .list (items.map fun item => (read item).toOption)
  | value => .one (read value).toOption

def Gist.operand? (less : α → α → Bool) (operator : Operator) : Gist α → Option (Operand α)
  | .one value =>
    match operator with
    | .between | .isIn | .notIn => none
    | _ => value.map .single
  | .list values =>
    match operator, values with
    | .between, [some low, some high] => if less high low then none else some (.range low high)
    | .isIn, value :: rest | .notIn, value :: rest => ((value :: rest).mapM id).map .set
    | _, _ => none

theorem mapM_id_toOption (read : Json → Except String α) (items : List Json) :
    (items.map fun item => (read item).toOption).mapM id = (items.mapM read).toOption := by
  have each := mapM_toOption_map read id items
  simpa [List.mapM_map] using each

theorem toOption_range {less : α → α → Bool} {read : Json → Except String α} (value : Json) :
    (readOperand less read .between value).toOption =
      (gist read value).operand? less .between := by
  cases value with
  | array items =>
    match items with
    | [] | [_] | _ :: _ :: _ :: _ => simp [readOperand, gist, Gist.operand?, Except.toOption]
    | [low, high] =>
      simp only [readOperand, gist, List.map_cons, List.map_nil]
      cases read low with
      | error => rfl
      | ok first =>
        cases read high with
        | error => rfl
        | ok second => exact apply_ite Except.toOption (less second first = true) _ _
  | _ => rfl

theorem toOption_members {less : α → α → Bool} {read : Json → Except String α}
    {operator : Operator} (member : operator = .isIn ∨ operator = .notIn) (value : Json) :
    (readOperand less read operator value).toOption =
      (gist read value).operand? less operator := by
  rw [readOperand_set member, toOption_map]
  cases value with
  | array items =>
    cases items with
    | nil => obtain rfl | rfl := member <;> rfl
    | cons item rest =>
      have each := mapM_id_toOption read (item :: rest)
      rw [List.map_cons] at each
      rw [readMembers_array (List.cons_ne_nil _ _), ← each]
      obtain rfl | rfl := member <;> rfl
  | _ => obtain rfl | rfl := member <;> rfl

theorem toOption_readOperand {less : α → α → Bool} {read : Json → Except String α}
    (single : ∀ items, (read (.array items)).toOption = none) (operator : Operator)
    (value : Json) : (readOperand less read operator value).toOption =
      (gist read value).operand? less operator := by
  have one : (do return Operand.single (← read value) : Except String (Operand α)).toOption =
      (read value).toOption.map .single := by
    cases read value <;> rfl
  cases operator with
  | between => exact toOption_range value
  | isIn => exact toOption_members (.inl rfl) value
  | notIn => exact toOption_members (.inr rfl) value
  | _ =>
    cases value with
    | array items => exact one.trans (by rw [single]; rfl)
    | _ => exact one

theorem predicate?_timestamp (matching : Matching) (operator : Operator) (value : Json) :
    predicate? matching .timestamp operator value =
      if Field.timestamp.supports operator then
        ((gist readInstant value).operand? Time.Instant.before operator).map fun operand record =>
          operand.accepts Time.Instant.before operator record.timestamp.instant
      else none := by
  split_ifs with supported
  · have whole : operator.comparesWhole = true := by
      revert supported
      cases operator <;> decide
    rw [predicate?_whole whole supported, ← toOption_readOperand fun _ => rfl]
    rfl
  · exact predicate?_of_not_supported (eq_false_of_ne_true supported)

end Comparison

open Comparison Time

/-- Times are read, ordered and judged by their instants alone. -/
structure ByInstants (matching : Matching) : Prop where
  spelled : ∀ time : LocalTime, time.Spelled
  written : ∀ offset : Int, offset % 60 = 0 → -86400 < offset → offset < 86400 →
    ∃ zone : Zone, zone.seconds = offset
  ordered : ∀ (first second : LocalTime) (offset : Int),
    (first.instant offset).before (second.instant offset) = true ↔ first.figures < second.figures
  counted : (∀ date : Date, date.Valid → Date.ofDayNumber date.dayNumber = date) ∧
    (∀ number, (Date.ofDayNumber number).dayNumber = number) ∧ (Date.mk 1970 1 1).dayNumber = 0
  operand : ∀ operator first second, gist readInstant first = gist readInstant second →
    predicate? matching .timestamp operator first = predicate? matching .timestamp operator second
  record : ∀ operator value passes, predicate? matching .timestamp operator value = some passes →
    ∀ first second : Record, first.timestamp.instant = second.timestamp.instant →
      passes first = passes second

theorem byInstants (matching : Matching) : ByInstants matching where
  spelled := LocalTime.spelled
  written offset whole low high := by
    obtain ⟨zone, same, -⟩ := Zone.exists_writeOffset whole ⟨low, high⟩
    exact ⟨zone, same⟩
  ordered := LocalTime.before_iff
  counted := ⟨fun _ => Date.ofDayNumber_dayNumber, Date.dayNumber_ofDayNumber, by decide⟩
  operand operator first second same := by
    rw [predicate?_timestamp, predicate?_timestamp, same]
  record operator value passes made first second same := by
    rw [predicate?_timestamp] at made
    split_ifs at made
    obtain ⟨operand, -, rfl⟩ := Option.map_eq_some_iff.mp made
    simp only [same]

def leapDay : LocalTime where
  date := ⟨2000, 2, 29⟩
  hour := 23
  minute := 59
  second := 59
  decimals := ['7', '5']
  year := by decide
  valid := by decide
  hour_le := by decide
  minute_le := by decide
  second_le := by decide
  decimal := List.all_eq_true.mp (by decide)
  short := by decide

theorem byInstants_leapDay :
    readInstant (.string "\t2000-02-29T23:59:59.75-01:30 ") = .ok ⟨951874199, 750000000⟩ ∧
      readInstant (.string "2000-02-29 23:59:59.75") = .ok ⟨951868799, 750000000⟩ := by
  have spelled := (byInstants ⟨false⟩).spelled leapDay
  refine ⟨?_, ?_⟩
  · exact spelled.zoned 'T' (by decide) (.behind 1 30) _
      ⟨['\t'], [' '], by decide +kernel, List.all_eq_true.mp (by decide),
        List.all_eq_true.mp (by decide)⟩
  · exact spelled.naive ' ' (by decide) _ ⟨[], [], by decide +kernel, nofun, nofun⟩

end LogSieve
