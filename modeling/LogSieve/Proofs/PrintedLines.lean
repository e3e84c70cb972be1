import LogSieve.Proofs.Applying
import LogSieve.Proofs.Files.Paths
import LogSieve.Proofs.Json.OneLine

/-! The lines of the text format. A record is shown with the line breaks of its message written out
and those of its source, its level and its node as they are. So it takes one line and one more for
every line break in these three, whatever its message holds. -/

namespace LogSieve

open Files Text Machine

namespace Text

theorem length_pieces (mark : Char) (text : List Char) :
    (pieces mark text).length = text.count mark + 1 := by
  induction text with
  | nil => rfl
  | cons c rest ih =>
    rw [pieces]
    by_cases same : c = mark
    · rw [if_pos same, same, List.count_cons_self, List.length_cons, ih]
    · rw [if_neg same, List.count_cons_of_ne same, ← ih]
      split
      · next none => exact absurd none (pieces_ne_nil mark rest)
      · next some => rw [some, List.length_cons, List.length_cons]

def linesOf (text : String) : List (List Char) := (pieces '\n' text.toList).dropLast

theorem linesOf_line (line text : String) :
    linesOf (line ++ "\n" ++ text) = pieces '\n' line.toList ++ linesOf text := by
  have split : (line ++ "\n" ++ text).toList = line.toList ++ '\n' :: text.toList := by simp
  rw [linesOf, split, pieces_append, List.dropLast_append_of_ne_nil (pieces_ne_nil _ _), linesOf]

end Text

namespace Time

open Json

theorem printed_padded (width n : Nat) : Printed (padded width n) := by
  have zeros : Printed (List.replicate (width - (Nat.toDigits 10 n).length) '0') := by
    intro c member
    rw [(List.mem_replicate.mp member).2]
    decide
  rw [padded, ← writeInteger_natCast]
  exact printed_append.mpr ⟨zeros, printed_writeInteger n⟩

theorem printed_writeYear (year : Int) : Printed (writeYear year) := by
  unfold writeYear
  split_ifs <;> simp [printed_padded]

theorem printed_writeFraction (nanos : Nat) (places : Places) :
    Printed (writeFraction nanos places) := by
  unfold writeFraction
  split <;> try split_ifs
  all_goals simp [printed_padded]

theorem printed_writeOffset (offset : Int) : Printed (writeOffset offset) := by
  unfold writeOffset
  split_ifs <;> simp [printed_padded]

theorem printed_chars (stamp : Stamp) (places : Places) : Printed (stamp.chars places) := by
  simp [Stamp.chars, writeDate, writeClock, printed_padded, printed_writeYear,
    printed_writeFraction, printed_writeOffset]

end Time

namespace Record

def bare (record : Record) : List Char :=
  record.source.toList ++ record.level.toList ++ record.node.toList

theorem newline_notMem_message (message : List Char) :
    '\n' ∉ message.flatMap fun c => if c = '\n' then ['\\', 'n'] else [c] := by
  intro member
  obtain ⟨c, -, written⟩ := List.mem_flatMap.mp member
  split_ifs at written with same
  · exact absurd written (by decide)
  · exact same (List.mem_singleton.mp written).symm

theorem shown_eq (record : Record) :
    record.shown = record.source ++ ":" ++ toString record.line ++
      String.ofList (List.replicate (6 - (toString record.line).length) ' ') ++ " " ++
      record.timestamp.write .three ++ " [" ++ record.level ++ "] " ++
      (if record.node.isEmpty then "-" else record.node) ++ " | " ++
      String.ofList
        (record.message.toList.flatMap fun c => if c = '\n' then ['\\', 'n'] else [c]) :=
  rfl

theorem count_shown (record : Record) :
    record.shown.toList.count '\n' = record.bare.count '\n' := by
  have number : (toString record.line).toList.count '\n' = 0 := by
    rw [Nat.toString_eq_repr, Nat.toList_repr, ← Json.writeInteger_natCast]
    exact List.count_eq_zero.mpr (Json.printed_writeInteger _).newline_notMem
  have time : (record.timestamp.write .three).toList.count '\n' = 0 := by
    rw [Time.Stamp.write, String.toList_ofList]
    exact List.count_eq_zero.mpr (Time.printed_chars _ _).newline_notMem
  have node : (if record.node.isEmpty then "-" else record.node).toList.count '\n' =
      record.node.toList.count '\n' := by
    split
    · next empty =>
      rw [String.isEmpty_iff.mp empty]
      rfl
    · rfl
  have message := List.count_eq_zero.mpr (newline_notMem_message record.message.toList)
  simp only [shown_eq, bare, String.toList_append, String.toList_ofList, List.count_append,
    List.count_replicate, number, time, node, message]
  simp

end Record

namespace Command

structure Shows (records : List Record) (output : String) : Prop where
  printed : output = linesText (records.map Record.shown)
  lines : linesOf output = records.flatMap fun record => pieces '\n' record.shown.toList
  count : (linesOf output).length = records.length + (records.flatMap Record.bare).count '\n'
  /-- Each record is a line of its own if none has a line break in a field that is shown as it is,
  and only then. -/
  apart : linesOf output = records.map (fun record => record.shown.toList) ↔
    ∀ record ∈ records, '\n' ∉ record.bare

theorem linesOf_linesText (lines : List String) :
    linesOf (linesText lines) = lines.flatMap fun line => pieces '\n' line.toList := by
  induction lines with
  | nil => rfl
  | cons line rest ih =>
    have split : linesText (line :: rest) = line ++ "\n" ++ linesText rest := by
      simp [linesText, String.join_cons]
    rw [split, linesOf_line, ih, List.flatMap_cons]

theorem length_lines (records : List Record) :
    (records.flatMap fun record => pieces '\n' record.shown.toList).length =
      records.length + (records.flatMap Record.bare).count '\n' := by
  induction records with
  | nil => rfl
  | cons record rest ih =>
    rw [List.flatMap_cons, List.length_append, ih, length_pieces, Record.count_shown,
      List.length_cons, List.flatMap_cons, List.count_append]
    omega

theorem shows (records : List Record) : Shows records (linesText (records.map Record.shown)) := by
  have lines : linesOf (linesText (records.map Record.shown)) =
      records.flatMap fun record => pieces '\n' record.shown.toList := by
    rw [linesOf_linesText, List.flatMap_map]
  have count := length_lines records
  rw [← lines] at count
  refine ⟨rfl, lines, count, fun apart record member bare => ?_, fun none => ?_⟩
  · rw [apart, List.length_map] at count
    have none : (records.flatMap Record.bare).count '\n' = 0 := by omega
    exact List.count_eq_zero.mp none (List.mem_flatMap.mpr ⟨record, member, bare⟩)
  · rw [lines, List.map_eq_flatMap]
    refine List.flatMap_congr fun record member => pieces_of_not_mem _ _ ?_
    rw [← List.count_eq_zero, Record.count_shown]
    exact List.count_eq_zero.mpr (none record member)

/-- Of the input of an invocation its criteria select these records: the settings, the criteria and
the input are those of the machine, the input holds records only, and a record is selected if all
criteria accept it. -/
def Selects (surroundings : Surroundings) (invocation : Invocation) (input : String)
    (source : CriteriaSource) (machine : Machine) (selected : List Record) : Prop :=
  ∃ (settings : Settings) (criteria : List Criterion) (leaves : List Leaf) (content : Octets)
    (records : List Record),
    ((Settings.load invocation.settings : StateM Machine _).run machine).1 = .ok settings ∧
    Supplies machine (store? surroundings invocation settings) source criteria ∧
    criteria.mapM (Leaf.ofCriterion (matchingOf invocation settings)) = .ok leaves ∧
    fed machine input = .ok content ∧
    Lines.items (sourceName input) content = records.map .record ∧
    selected = records.filter (Leaf.allAccept leaves)

/-- A command that applies criteria and ends well shows the records that they select: on as many
lines as there are records, and one more for each line break in a source, a level or a node. -/
theorem run_apply_text (surroundings : Surroundings) (now : Time.Instant) {invocation : Invocation}
    {input : String} {source : CriteriaSource} {explained : Bool}
    (applies : invocation.command = .apply input source .text explained) {machine : Machine}
    {output : String}
    (zero : ((run surroundings now invocation >>= finish : StateM Machine _).run machine).1 =
      (0, output)) :
    ∃ records, Selects surroundings invocation input source machine records ∧
      Shows records output := by
  obtain ⟨outcome, after, ran⟩ : ∃ outcome after,
    (run surroundings now invocation : StateM Machine _).run machine = (outcome, after) :=
    ⟨_, _, rfl⟩
  rw [run_bind_of_run ran] at zero
  obtain rfl := eq_done_of_finish zero
  obtain ⟨settings, criteria, content, loaded, supplied, holds, done⟩ := run_apply_done applies ran
  obtain ⟨leaves, compiled, none, rfl, -⟩ := outcomeOf_done done
  have records := Item.eq_ofRecords_of_firstError? none
  have selects : Selects surroundings invocation input source machine _ :=
    ⟨settings, criteria, leaves, content, _, loaded, supplied, compiled, holds, records, rfl⟩
  exact ⟨_, selects, shows _⟩

/-- A message of two lines is shown on one. -/
theorem run_apply_text_message :
    let content := octets ("\x7b\"timestamp\":\"2026-01-01T00:00:00Z\",\"level\":\"INFO\"," ++
      "\"message\":\"disk\\nfull\"\x7d\n")
    let machine := Machine.ofTree ⟨[]⟩ [] content
    let source := CriteriaSource.given [⟨"Message", "contains", .string "disk"⟩]
    let invocation : Invocation := ⟨none, none, false, 0, .apply "-" source .text false⟩
    let output := "stdin:1      2026-01-01T00:00:00.000Z [INFO] - | disk\\nfull\n"
    ((run ⟨none, none⟩ ⟨0, 0⟩ invocation >>= finish : StateM Machine _).run machine).1 =
      (0, output) ∧
    ∃ records, Selects ⟨none, none⟩ invocation "-" source machine records ∧
      Shows records output := by
  intro content machine source invocation output
  have zero : ((run ⟨none, none⟩ ⟨0, 0⟩ invocation >>= finish :
    StateM Machine _).run machine).1 = (0, output) := by decide +kernel
  exact ⟨zero, run_apply_text ⟨none, none⟩ ⟨0, 0⟩ rfl zero⟩

/-- A node of two lines: one record is let through, and it is shown on two lines. -/
theorem node_over_two_lines :
    let content := octets ("\x7b\"timestamp\":\"2026-01-01T00:00:00Z\",\"level\":\"INFO\"," ++
      "\"message\":\"disk\",\"node\":\"web\\n1\"\x7d\n")
    let machine := Machine.ofTree ⟨[]⟩ [] content
    let criteria : List Criterion := [⟨"Message", "contains", .string "disk"⟩]
    let invocation : Invocation := ⟨none, none, false, 0, .apply "-" (.given criteria) .text false⟩
    let record : Record :=
      ⟨"stdin", 1, .utc ⟨1767225600, 0⟩, "INFO", "disk", "web\n1", none, none⟩
    let output := "stdin:1      2026-01-01T00:00:00.000Z [INFO] web\n1 | disk\n"
    Lines.items "stdin" content = [.record record] ∧
    (sieve ⟨false⟩ criteria (Lines.flow "stdin" content)).toOption.map Flow.items =
      some [.record record] ∧
    ((run ⟨none, none⟩ ⟨0, 0⟩ invocation >>= finish : StateM Machine _).run machine).1 =
      (0, output) ∧
    linesOf output =
      ["stdin:1      2026-01-01T00:00:00.000Z [INFO] web".toList, "1 | disk".toList] ∧
    record.shown.toList ∉ linesOf output := by
  decide +kernel

end Command

end LogSieve
