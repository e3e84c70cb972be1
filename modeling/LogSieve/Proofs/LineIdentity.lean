import LogSieve.Lines
import LogSieve.Proofs.PointEvaluation

/-! The identity of records that are read from lines. A line without a number of its own takes the
number at which it stands, so no two such lines give records of one key, whatever sources they name.
A number that a line brings along is kept, and it can be the number of any other line. -/

namespace LogSieve

def Item.record? : Item → Option Record
  | record found => some found
  | error _ => none

theorem Flow.items_ofEvents_give (given : List Item) :
    (Flow.ofEvents (given.map .give)).items = given := by
  have drained : ∀ tally, ((Flow.ofEvents (given.map .give)).drain tally).1 = given := by
    induction given with
    | nil => exact fun _ => rfl
    | cons item rest ih => exact fun tally => congrArg (List.cons item) (ih _)
  exact drained .start

namespace Lines

open Text

structure Entry where
  line : Nat
  written : Record
  deriving DecidableEq, Repr

namespace Entry

def read (source : String) (entry : Entry) : Record := identified source entry.line entry.written

/-- The line brings no number along, or the one at which it stands. -/
def Unnumbered (entry : Entry) : Prop := entry.written.line = 0 ∨ entry.written.line = entry.line

theorem line_read {entry : Entry} (unnumbered : entry.Unnumbered) (source : String) :
    (entry.read source).line = entry.line := by
  rcases unnumbered with absent | same
  · exact if_pos absent
  · rw [read, identified, same]
    exact ite_self _

end Entry

def written? (octets : Octets) : Option Record :=
  (textOf? octets).bind fun text =>
    if (trim text.toList).isEmpty then none else (Record.ofText text).toOption

theorem record?_item? (source : String) (line : Nat) (octets : Octets) :
    (item? source line octets).bind Item.record? =
      (written? octets).map (identified source line) := by
  unfold item? written?
  cases textOf? octets with
  | none => rfl
  | some text =>
    dsimp only [Option.bind_some]
    split
    · rfl
    · cases Record.ofText text <;> rfl

def entriesFrom (line : Nat) : List Octets → List Entry
  | [] => []
  | octets :: rest => ((written? octets).map (Entry.mk line)).toList ++ entriesFrom (line + 1) rest

def entries (octets : Octets) : List Entry := entriesFrom 1 (split octets)

theorem records_itemsFrom (source : String) (line : Nat) (lines : List Octets) :
    (itemsFrom source line lines).filterMap Item.record? =
      (entriesFrom line lines).map (Entry.read source) := by
  induction lines generalizing line with
  | nil => rfl
  | cons octets rest ih =>
    have passed (found : Option Item) :
        found.toList.filterMap Item.record? = (found.bind Item.record?).toList := by
      cases found with
      | none => rfl
      | some item => cases item <;> rfl
    rw [itemsFrom, entriesFrom, List.filterMap_append, List.map_append, ih, passed,
      record?_item?]
    congr 1
    cases written? octets <;> rfl

theorem le_line_of_mem {line : Nat} {lines : List Octets} {entry : Entry}
    (member : entry ∈ entriesFrom line lines) : line ≤ entry.line := by
  induction lines generalizing line with
  | nil => cases member
  | cons octets rest ih =>
    rcases List.mem_append.mp member with here | behind
    · obtain ⟨record, -, rfl⟩ := Option.map_eq_some_iff.mp (Option.mem_toList.mp here)
      exact Nat.le_refl line
    · exact Nat.le_of_succ_le (ih behind)

theorem pairwise_entriesFrom (line : Nat) (lines : List Octets) :
    (entriesFrom line lines).Pairwise fun first second => first.line < second.line := by
  induction lines generalizing line with
  | nil => exact List.Pairwise.nil
  | cons octets rest ih =>
    refine List.pairwise_append.mpr ⟨?_, ih (line + 1), fun first here second behind => ?_⟩
    · cases written? octets with
      | none => exact List.Pairwise.nil
      | some record => exact List.pairwise_singleton _ _
    · obtain ⟨record, -, rfl⟩ := Option.map_eq_some_iff.mp (Option.mem_toList.mp here)
      exact le_line_of_mem behind

/-- Of two lines on which the same key is read, one brings the number of another line along. -/
theorem pairwise_key_ne (source : String) (octets : Octets) :
    (entries octets).Pairwise fun first second => first.Unnumbered → second.Unnumbered →
      (first.read source).key ≠ (second.read source).key := by
  refine (pairwise_entriesFrom 1 (split octets)).imp fun inOrder firstPlain secondPlain same => ?_
  have lines := congrArg RecordKey.line same
  rw [Record.key, Record.key, Entry.line_read firstPlain, Entry.line_read secondPlain] at lines
  exact Nat.ne_of_lt inOrder lines

theorem nodup_keys_of_unnumbered (source : String) {octets : Octets}
    (unnumbered : ∀ entry ∈ entries octets, entry.Unnumbered) :
    (((entries octets).map (Entry.read source)).map Record.key).Nodup := by
  rw [List.map_map]
  refine List.pairwise_map.mpr ?_
  exact (pairwise_key_ne source octets).imp_of_mem fun inFirst inSecond apart =>
    apart (unnumbered _ inFirst) (unnumbered _ inSecond)

/-- The records that are read from a text, in order: lines whose numbers are their own places give
records of distinct keys. So if all lines are such, every record has a key of its own, and every
expression selects just the records that pass it. -/
theorem flow_keys (source : String) (octets : Octets) :
    let read := (flow source octets).items.filterMap Item.record?
    read = (entries octets).map (Entry.read source) ∧
      ((entries octets).Pairwise fun first second => first.Unnumbered → second.Unnumbered →
        (first.read source).key ≠ (second.read source).key) ∧
      ((∀ entry ∈ entries octets, entry.Unnumbered) →
        (read.map Record.key).Nodup ∧
        ∀ expression : Expression, (expression.select read).Perm
          (read.filter expression.admits)) := by
  intro read
  have same : read = (entries octets).map (Entry.read source) := by
    rw [entries, ← records_itemsFrom]
    exact congrArg (List.filterMap Item.record?) (Flow.items_ofEvents_give _)
  refine ⟨same, pairwise_key_ne source octets, fun unnumbered => ?_⟩
  have distinct : (read.map Record.key).Nodup :=
    same ▸ nodup_keys_of_unnumbered source unnumbered
  exact ⟨distinct, fun expression => expression.selectsAdmitted read distinct⟩

/-- The first line calls itself the second one, and the second line takes its place as its number:
both give the same key. -/
theorem not_nodup_keys_of_numbered :
    let text :=
      "\x7b\"lineNumber\":2,\"timestamp\":\"2026-01-01T00:00:00Z\"," ++
      "\"level\":\"INFO\",\"message\":\"a\"\x7d\n" ++
      "\x7b\"timestamp\":\"2026-01-01T00:00:01Z\",\"level\":\"INFO\",\"message\":\"b\"\x7d\n"
    ¬ (((flow "app.log" (octets text)).items.filterMap Item.record?).map Record.key).Nodup := by
  decide +kernel

end Lines

end LogSieve
