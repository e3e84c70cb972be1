import LogSieve.Proofs.Applying
import LogSieve.Proofs.WrittenLines

/-! Filtering what has been filtered. The criteria have let every record of the output through, and
each of its lines gives its record back, so the same command leaves the output as it is. Between the
two runs only standard input has changed, and what comes before the records does not look at it. -/

namespace LogSieve

open Files Text Machine

namespace Command

theorem octets_linesText (records : List Record) :
    octets (linesText (records.map Format.json.line)) =
      records.flatMap fun record => Lines.written record ++ [Lines.lineFeed] := by
  have ends : octets "\n" = [Lines.lineFeed] := by decide +kernel
  rw [octets_eq_flatMap] at ends
  simp only [octets_eq_flatMap, linesText, String.toList_join, List.flatMap_map,
    List.flatMap_assoc, String.toList_append, List.flatMap_append, Lines.written]
  rw [ends]

/-! ### Two runs -/

/-- If the first program ends well with this output, so does the second one where the output stands
at standard input. -/
def Again (machine : Machine) (output : String) (first second : StateM Machine Outcome) : Prop :=
  ∀ reports reports', (first.run { machine with reports := reports }).1 = .done output →
    (second.run { machine with input := octets output, reports := reports' }).1 = .done output

section Again

variable {machine : Machine} {output : String}

theorem again_failed (layers : List String) (second : StateM Machine Outcome) :
    Again machine output (pure (.failed layers)) second := by
  rintro _ _ ⟨⟩

theorem Again.bind {act : StateM Machine α} {first second : α → StateM Machine Outcome}
    (willing : machine.turns = []) (inquires : Inquires act)
    (later : ∀ value, Again machine output (first value) (second value)) :
    Again machine output (act >>= first) (act >>= second) := by
  intro reports reports' done
  obtain ⟨value, told, ran⟩ := inquires.consults machine willing
  rw [run_bind_of_run (ran _ reports')]
  have early : act.run { machine with reports := reports } =
      (value, { machine with reports := reports ++ told }) := ran machine.input reports
  rw [run_bind_of_run early] at done
  exact later value _ _ done

theorem outcomeOf_again {matching : Matching} {criteria : List Criterion} {name : String}
    {content : Octets} (named : name ≠ "") (countable : Lines.Countable content)
    (done : outcomeOf matching criteria .json (Lines.flow name content) = .done output) :
    outcomeOf matching criteria .json (Lines.flow "stdin" (octets output)) = .done output := by
  obtain ⟨leaves, -, none, printed, again⟩ := outcomeOf_done done
  have all := Item.eq_ofRecords_of_firstError? none
  generalize Item.leading (Lines.items name content) = records at all printed
  generalize Leaf.allAccept leaves = accepts at printed again
  have each : ∀ record ∈ records.filter accepts, record.Rereadable := by
    intro record member
    refine Lines.rereadable_of_mem named countable ?_
    rw [all]
    exact List.mem_map_of_mem (List.mem_of_mem_filter member)
  have read : Lines.items "stdin" (octets output) = (records.filter accepts).map .record := by
    rw [printed, octets_linesText]
    exact Lines.itemsFrom_written "stdin" 1 each
  have kept := again (records.filter accepts)
  rw [List.filter_filter] at kept
  simp only [Bool.and_self] at kept
  rw [Lines.flow, read, kept, printed]

variable (willing : machine.turns = []) {input : String}
  (countable : ∀ content, fed machine input = .ok content → Lines.Countable content)

include countable

theorem again_applyCriteria (output : String) (matching : Matching) (criteria : List Criterion) :
    Again machine output (applyCriteria matching input criteria .json)
      (applyCriteria matching "-" criteria .json) := by
  intro reports reports' done
  let again : Machine := { machine with input := octets output, reports := reports' }
  have reopened : (inputFlow "-" : StateM Machine _).run again =
      (.ok (Lines.flow "stdin" (octets output)), again) := by
    unfold inputFlow
    rw [if_pos (by decide)]
    rfl
  have ran : (applyCriteria matching input criteria .json : StateM Machine _).run
      { machine with reports := reports } = (.done output, _) := Prod.ext done rfl
  obtain ⟨content, named, holds, kept⟩ := applyCriteria_done ran
  rw [applyCriteria_fst reopened]
  exact outcomeOf_again named (countable content holds) kept

include willing

theorem again_explainAndApply (output : String) (matching : Matching) (criteria : List Criterion)
    (explained : Bool) :
    Again machine output (explainAndApply matching input criteria .json explained)
      (explainAndApply matching "-" criteria .json explained) := by
  have applied := again_applyCriteria countable output matching criteria
  unfold explainAndApply
  split
  · refine Again.bind willing (inquires_explain matching criteria) fun answer => ?_
    cases answer with
    | error error => exact again_failed _ _
    | ok => exact applied
  · exact applied

theorem again_execute (settings : Settings) (directory : Option String) (now later : Time.Instant)
    (source : CriteriaSource) (explained : Bool) :
    Again machine output (execute settings directory now (.apply input source .json explained))
      (execute settings directory later (.apply "-" source .json explained)) := by
  have applied := again_explainAndApply willing countable output settings.matching
  cases source with
  | given criteria => exact applied criteria explained
  | saved name =>
    unfold execute withStore
    cases directory with
    | none => exact again_failed _ _
    | some directory =>
      refine Again.bind willing (Store.inquires_load _ name) fun answer => ?_
      unfold orFail
      cases answer with
      | error error => exact again_failed _ _
      | ok found =>
        cases found with
        | none => exact again_failed _ _
        | some filter => exact applied filter.criteria explained

theorem again_run (surroundings : Surroundings) (now later : Time.Instant)
    (invocation : Invocation) (source : CriteriaSource) (explained : Bool) :
    Again machine output
      (run surroundings now { invocation with command := .apply input source .json explained })
      (run surroundings later
        { invocation with command := .apply "-" source .json explained }) := by
  unfold run
  refine Again.bind willing (inquires_load_settings _) fun answer => ?_
  cases answer with
  | error error => exact again_failed _ _
  | ok settings =>
    refine Again.bind willing (inquires_note _ _ _ _) fun _ => ?_
    exact again_execute willing countable _ _ now later source explained

end Again

/-- The line of a record that has been read gives that record and nothing else: it is one line, and
whoever reads it anywhere under any name meets the record as it was, whose line is the same then.
Therefore a command that filters records and ends well reproduces its own output when it is given
that output at standard input. -/
theorem refiltered :
    (∀ source content record, source ≠ "" → Lines.Countable content →
      .record record ∈ (Lines.flow source content).items → Lines.GivenBack record) ∧
    ∀ (surroundings : Surroundings) (now later : Time.Instant) (invocation : Invocation)
      (input : String) (source : CriteriaSource) (explained : Bool) (machine : Machine)
      (output : String), machine.turns = [] →
      (∀ content, fed machine input = .ok content → Lines.Countable content) →
      let applied (input : String) : Invocation :=
        { invocation with command := .apply input source .json explained }
      ((run surroundings now (applied input) >>= finish : StateM Machine _).run machine).1 =
        (0, output) →
      ((run surroundings later (applied "-") >>= finish : StateM Machine _).run
        { machine with input := octets output }).1 = (0, output) := by
  constructor
  · intro source content record named countable given
    rw [Lines.items_flow] at given
    exact Lines.givenBack (Lines.rereadable_of_mem named countable given)
  · intro surroundings now later invocation input source explained machine output willing countable
      applied zero
    have done : ((run surroundings now (applied input) : StateM Machine _).run machine).1 =
        .done output := eq_done_of_finish zero
    have again := again_run willing countable surroundings now later invocation source explained
      machine.reports machine.reports done
    obtain ⟨outcome, after, ran⟩ : ∃ outcome after,
        (run surroundings later (applied "-") : StateM Machine _).run
          { machine with input := octets output } = (outcome, after) := ⟨_, _, rfl⟩
    obtain rfl : outcome = .done output := (congrArg Prod.fst ran).symm.trans again
    rw [run_bind_of_run ran]
    rfl

/-- Two records with a blank line between them. The first one says nothing about its place, its
clock is ahead of universal time and shows a leap second, and its message has characters that are
escaped; the second one is not let through. -/
theorem refiltered_error :
    let first := "\x7b \"message\": \"tab\\there\\u0001\\u00e9\", \"level\": \"Error\", " ++
      "\"username\": null, \"timestamp\": \"2026-01-02t23:29:60.250+05:30\" \x7d\r\n"
    let second := "\x7b\"timestamp\":\"2026-01-02T00:00:00Z\",\"level\":\"INFO\"," ++
      "\"message\":\"\"\x7d"
    let content := octets (first ++ "\r\n" ++ second)
    let machine := Machine.ofTree ⟨[(["app.log"], .file content)]⟩ [] []
    let source := CriteriaSource.given [⟨"Level", "equals", .string "error"⟩]
    let applied (input : String) : Invocation :=
      ⟨none, none, false, 0, .apply input source .json false⟩
    let output := "\x7b\"source\":\"app.log\",\"lineNumber\":1," ++
      "\"timestamp\":\"2026-01-02T23:29:60.250+05:30\",\"level\":\"Error\"," ++
      "\"message\":\"tab\\there\\u0001é\",\"node\":\"\"\x7d\n"
    let record : Record := ⟨"app.log", 1, ⟨⟨1767376799, 1250000000⟩, 19800⟩, "Error",
      "tab\there\u0001é", "", none, none⟩
    .record record ∈ (Lines.flow "app.log" content).items ∧ Lines.GivenBack record ∧
    ((run ⟨none, none⟩ ⟨0, 0⟩ (applied "app.log") >>= finish : StateM Machine _).run machine).1 =
      (0, output) ∧
    ((run ⟨none, none⟩ ⟨1, 0⟩ (applied "-") >>= finish : StateM Machine _).run
      { machine with input := octets output }).1 = (0, output) := by
  intro first second content machine source applied output record
  have lines : (Lines.split content).length = 3 := by decide +kernel
  have countable : Lines.Countable content := by
    rw [Lines.Countable, lines]
    decide
  have given : .record record ∈ (Lines.flow "app.log" content).items := by decide +kernel
  have holds : fed machine "app.log" = .ok content := by decide +kernel
  have zero : ((run ⟨none, none⟩ ⟨0, 0⟩ (applied "app.log") >>= finish :
    StateM Machine _).run machine).1 = (0, output) := by decide +kernel
  refine ⟨given, refiltered.1 _ _ _ (by decide) countable given, zero, ?_⟩
  refine refiltered.2 ⟨none, none⟩ ⟨0, 0⟩ ⟨1, 0⟩ (applied "app.log") "app.log" source false machine
    output rfl ?_ zero
  rintro _ fed
  obtain rfl := Except.ok.inj (holds.symm.trans fed)
  exact countable

end Command

end LogSieve
