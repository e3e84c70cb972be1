import LogSieve.Proofs.FlatFilter
import LogSieve.Proofs.SaveCommand

/-! Applying criteria on the command line. What is printed comes from the criteria, the input and
the format alone: up to the input nothing is read but files, and then every record in front of the
first error that the criteria keep gives its line. -/

namespace LogSieve

open Files Text

namespace Machine

/-! ### Programs that do not look at standard input -/

/-- On a machine on which every request works, the answer comes from the files: neither standard
input nor the reports are read, and more may be reported. -/
def Consults (act : StateM Machine α) : Prop :=
  ∀ machine : Machine, machine.turns = [] → ∃ answer told, ∀ input reports,
    act.run { machine with input := input, reports := reports } =
      (answer, { machine with input := input, reports := reports ++ told })

theorem Consults.bind {first : StateM Machine α} {next : α → StateM Machine β}
    (early : Consults first) (late : ∀ value, Consults (next value)) :
    Consults (first >>= next) := by
  intro machine willing
  obtain ⟨value, told, ran⟩ := early machine willing
  obtain ⟨answer, more, ran'⟩ := late value machine willing
  refine ⟨answer, told ++ more, fun input reports => ?_⟩
  rw [run_bind_of_run (ran input reports), ran', List.append_assoc]

theorem consults_read (path : String) : Consults (Host.read path : StateM Machine _) := by
  intro machine willing
  refine ⟨(machine.locate path).bind machine.tree.read, [], fun input reports => ?_⟩
  rw [List.append_nil]
  exact run_look willing

theorem Inquires.consults {act : StateM Machine α} (inquires : Inquires act) : Consults act := by
  induction inquires with
  | pure value => exact fun _ _ => ⟨value, [], fun _ _ => by rw [List.append_nil]; rfl⟩
  | bind _ _ early late => exact early.bind late
  | report report => exact fun _ _ => ⟨(), [report], fun _ _ => rfl⟩
  | read path => exact consults_read path

theorem input_look (act : Machine → Except Fault α) (machine : Machine) :
    ((look act).run machine).2.input = machine.input := by
  by_cases willing : ∀ fault left rest, machine.turns ≠ .fails fault left :: rest
  · rw [look, request_works machine willing]
  · push Not at willing
    obtain ⟨fault, left, rest, failing⟩ := willing
    rw [look, request_fails machine failing]

structure Undisturbed (before after : Machine) : Prop extends Untouched before after where
  input : after.input = before.input

theorem Undisturbed.trans {before middle after : Machine} (early : Undisturbed before middle)
    (late : Undisturbed middle after) : Undisturbed before after :=
  ⟨early.toUntouched.trans late.toUntouched, late.input.trans early.input⟩

theorem Inquires.undisturbed {act : StateM Machine α} (inquires : Inquires act)
    {before after : Machine} {value : α} (ran : act.run before = (value, after)) :
    Undisturbed before after := by
  have same : after.input = before.input := by
    induction inquires generalizing before after with
    | pure => cases ran; rfl
    | bind _ _ early late =>
      obtain ⟨value, middle, ran, ran'⟩ := run_bind ran
      exact (late value ran').trans (early ran)
    | report => cases ran; rfl
    | read path => exact (congrArg (·.2.input) ran).symm.trans (input_look _ before)
  exact ⟨inquires.looks.untouched ran, same⟩

end Machine

open Machine

namespace Command

theorem inquires_notePlanned (position : Nat) (planned : List Planned) :
    Inquires (notePlanned position planned : StateM Machine Unit) := by
  induction planned generalizing position with
  | nil => exact .pure _
  | cons first rest ih => exact (inquires_note _ _ _ _).bind fun _ => ih (position + 1)

theorem inquires_reportLines (lines : List String) :
    Inquires (reportLines lines : StateM Machine Unit) := by
  induction lines with
  | nil => exact .pure _
  | cons line rest ih => exact (Inquires.report _).bind fun _ => ih

theorem inquires_notedPlan (matching : Matching) (criteria : List Criterion) :
    Inquires (notedPlan matching criteria : StateM Machine _) := by
  unfold notedPlan
  split
  · exact .pure _
  · exact (inquires_notePlanned _ _).bind fun _ => .pure _

theorem inquires_notedExpression (matching : Matching) (criteria : List Criterion) :
    Inquires (notedExpression matching criteria : StateM Machine _) := by
  unfold notedExpression
  split
  · exact (inquires_notedPlan matching criteria).bind fun _ => .pure _
  · exact .pure _

theorem inquires_explain (matching : Matching) (criteria : List Criterion) :
    Inquires (explain matching criteria : StateM Machine _) := by
  unfold explain
  refine (inquires_notedExpression matching criteria).bind fun answer => ?_
  cases answer with
  | error error => exact .pure _
  | ok expression =>
    refine (inquires_reportLines _).bind fun _ => ?_
    split
    · refine (inquires_notedPlan matching criteria).bind fun answer => ?_
      cases answer with
      | error error => exact .pure _
      | ok planned => exact (inquires_reportLines _).bind fun _ => .pure _
    · exact .pure _

/-! ### One run of the criteria -/

def endingOf (error : Option FilterError) : Ending :=
  error.elim .done fun error => .failed ["Filtering aborted", error.message]

def outcomeOf (matching : Matching) (criteria : List Criterion) (format : Format) (source : Flow) :
    Outcome :=
  match sieve matching criteria source, expressionOf matching criteria with
  | .error error, _ => .failed ["Failed to build filter", error.message]
  | .ok _, .error error => .failed ["Failed to build filter", error.message]
  | .ok found, .ok _ =>
    ⟨linesText (printed format found.items).1, endingOf (printed format found.items).2⟩

theorem notedExpression_fst (matching : Matching) (criteria : List Criterion) (machine : Machine) :
    ((notedExpression matching criteria : StateM Machine _).run machine).1 =
      expressionOf matching criteria := by
  unfold notedExpression
  split <;> rfl

theorem printOutcome_fst (format : Format) (flow : Flow) (machine : Machine) :
    ((printOutcome format flow : StateM Machine _).run machine).1 =
      ⟨linesText (printed format flow.items).1, endingOf (printed format flow.items).2⟩ := by
  unfold printOutcome
  obtain ⟨lines, _ | error⟩ := printed format flow.items <;> rfl

theorem applyCriteria_fst {matching : Matching} {input : String} {criteria : List Criterion}
    {format : Format} {machine after : Machine} {source : Flow}
    (opened : (inputFlow input : StateM Machine _).run machine = (.ok source, after)) :
    ((applyCriteria matching input criteria format : StateM Machine _).run machine).1 =
      outcomeOf matching criteria format source := by
  unfold applyCriteria outcomeOf
  rw [run_bind_of_run opened]
  dsimp only
  cases sieve matching criteria source with
  | error error => rfl
  | ok found =>
    have answered := notedExpression_fst matching criteria after
    generalize ran : (notedExpression matching criteria : StateM Machine _).run after = answer
      at answered
    obtain ⟨made, middle⟩ := answer
    dsimp only at answered ⊢
    rw [run_bind_of_run ran, ← answered]
    cases made with
    | error error => rfl
    | ok expression => exact printOutcome_fst format found _

theorem printed_eq (format : Format) (items : List Item) :
    printed format items = ((Item.leading items).map format.line, Item.firstError? items) := by
  induction items with
  | nil => rfl
  | cons item rest ih =>
    cases item with
    | record record => simp [printed, ih, Item.leading, Item.firstError?]
    | error error => rfl

theorem exists_leaves {matching : Matching} {criteria : List Criterion} {source found : Flow}
    (made : sieve matching criteria source = .ok found) :
    ∃ leaves expression, criteria.mapM (Leaf.ofCriterion matching) = .ok leaves ∧
      expressionOf matching criteria = .ok expression ∧
      ∀ items : List Item, ∃ flow,
        sieve matching criteria (.ofEvents (items.map .give)) = .ok flow ∧
        flow.items = Item.upToError (items.filter (Item.passes (Leaf.allAccept leaves))) := by
  have valid : (review matching criteria).valid = true := by
    unfold sieve at made
    dsimp only at made
    split_ifs at made with valid
    exact valid
  have each := Review.reviewFrom_valid.mp valid
  obtain ⟨leaves, compiled⟩ := exists_mapM_eq_ok fun criterion member =>
    (each criterion member).elim fun _ passed => Criterion.ofCriterion_of_check passed
  obtain ⟨expression, built, kept⟩ := expressionOf_results each compiled
  refine ⟨leaves, expression, compiled, built, fun items =>
    ⟨expression.apply (.ofEvents (items.map .give)), ?_, ?_⟩⟩
  · rw [sieve, if_pos valid]
    exact bind_eq_ok.mpr ⟨expression, built, rfl⟩
  · rw [← kept]
    exact Flow.drain_yields (Flow.yields_untilError (expression.offers_evaluate_give items).yields)
      rfl

theorem outcomeOf_done {matching : Matching} {criteria : List Criterion} {format : Format}
    {items : List Item} {output : String}
    (done : outcomeOf matching criteria format (.ofEvents (items.map .give)) = .done output) :
    ∃ leaves, criteria.mapM (Leaf.ofCriterion matching) = .ok leaves ∧
      Item.firstError? items = none ∧
      output = linesText (((Item.leading items).filter (Leaf.allAccept leaves)).map format.line) ∧
      ∀ records : List Record,
        outcomeOf matching criteria format (.ofEvents ((records.map .record).map .give)) =
          .done (linesText ((records.filter (Leaf.allAccept leaves)).map format.line)) := by
  cases made : sieve matching criteria (.ofEvents (items.map .give)) with
  | error error =>
    rw [outcomeOf, made] at done
    cases done
  | ok found =>
    obtain ⟨leaves, expression, compiled, built, sieved⟩ := exists_leaves made
    have outcome (items : List Item) :
        outcomeOf matching criteria format (.ofEvents (items.map .give)) =
          ⟨linesText (((Item.leading items).filter (Leaf.allAccept leaves)).map format.line),
            endingOf (Item.firstError? items)⟩ := by
      obtain ⟨flow, made, found⟩ := sieved items
      simp only [outcomeOf, made, built, found, printed_eq, Item.leading_upToError,
        Item.firstError?_upToError, Item.leading_filter, Item.firstError?_filter]
    rw [outcome] at done
    cases none : Item.firstError? items with
    | some error =>
      rw [none] at done
      cases done
    | none =>
      rw [none] at done
      cases done
      refine ⟨leaves, compiled, rfl, rfl, fun records => ?_⟩
      rw [outcome, Item.firstError?_ofRecords, Item.leading_ofRecords]
      rfl

theorem outcomeOf_error_ne_done (matching : Matching) (criteria : List Criterion) (format : Format)
    (error : FilterError) (output : String) :
    outcomeOf matching criteria format (.ofEvents [.give (.error error)]) ≠ .done output := by
  intro done
  let items : List Item := [.error error]
  have done : outcomeOf matching criteria format (.ofEvents (items.map .give)) =
    .done output := done
  obtain ⟨-, -, none, -⟩ := outcomeOf_done done
  cases none

/-! ### Inputs -/

def fed (machine : Machine) (input : String) : Except Fault Octets :=
  if Path.isDash input then .ok machine.input
  else (machine.locate input).bind machine.tree.read

def sourceName (input : String) : String := if Path.isDash input then "stdin" else input

theorem inputFlow_cases (input : String) (machine : Machine) :
    (∃ content after, sourceName input ≠ "" ∧ fed machine input = .ok content ∧
      (inputFlow input : StateM Machine _).run machine =
        (.ok (Lines.flow (sourceName input) content), after)) ∨
    (∃ error after, (inputFlow input : StateM Machine _).run machine =
      (.ok (.ofEvents [.give (.error error)]), after)) ∨
    ∃ fault after, (inputFlow input : StateM Machine _).run machine = (.error fault, after) := by
  unfold sourceName inputFlow
  by_cases dash : Path.isDash input = true
  · rw [if_pos dash, if_pos dash]
    exact .inl ⟨machine.input, machine, by decide, if_pos dash, rfl⟩
  · have told := machine.read_cases input
    obtain ⟨answer, after, ran⟩ : ∃ answer after,
      (Host.read input : StateM Machine _).run machine = (answer, after) := ⟨_, _, rfl⟩
    rw [ran] at told
    rw [if_neg dash, if_neg dash, run_bind_of_run ran]
    cases answer with
    | ok content =>
      obtain ⟨_, _, ⟨⟩, -⟩ | read := told
      refine .inl ⟨content, after, ?_, by rw [fed, if_neg dash, ← read], rfl⟩
      rintro rfl
      obtain ⟨place, reached, -⟩ := bind_eq_ok.mp read.symm
      exact absurd (Tree.pathFault?_of_locate reached) (by decide)
    | error fault =>
      dsimp only
      split
      · exact .inr (.inl ⟨_, _, rfl⟩)
      · exact .inr (.inr ⟨fault, _, rfl⟩)

/-! ### One run of the command -/

def matchingOf (invocation : Invocation) (loaded : Settings) : Matching :=
  if invocation.caseSensitive then ⟨true⟩ else loaded.matching

/-- The criteria that a command applies: those it is given, or those of a filter in the store. -/
def Supplies (machine : Machine) (store : Option Store) :
    CriteriaSource → List Criterion → Prop
  | .given criteria, applied => applied = criteria
  | .saved name, applied => ∃ place filter, store = some place ∧
      place.Loads name machine (some filter) ∧ applied = filter.criteria

section Done

variable {matching : Matching} {criteria : List Criterion} {source : CriteriaSource}
  {input output : String} {format : Format} {explained : Bool} {machine after : Machine}

theorem Supplies.earlier {store : Option Store} (supplies : Supplies after store source criteria)
    (untouched : machine.Untouched after) : Supplies machine store source criteria := by
  cases source with
  | given => exact supplies
  | saved name =>
    obtain ⟨place, filter, known, found, same⟩ := supplies
    exact ⟨place, filter, known, found.earlier untouched, same⟩

theorem fed_of_undisturbed (undisturbed : Undisturbed machine after) :
    fed after input = fed machine input := by
  rw [fed, fed, locate, locate, undisturbed.input, undisturbed.tree, undisturbed.here]

theorem applyCriteria_done
    (ran : (applyCriteria matching input criteria format : StateM Machine _).run machine =
      (.done output, after)) :
    ∃ content, sourceName input ≠ "" ∧ fed machine input = .ok content ∧
      outcomeOf matching criteria format (Lines.flow (sourceName input) content) =
        .done output := by
  obtain ⟨content, _, named, holds, opened⟩ | ⟨error, _, opened⟩ | ⟨fault, _, opened⟩ :=
    inputFlow_cases input machine
  · exact ⟨content, named, holds, (applyCriteria_fst opened).symm.trans (congrArg Prod.fst ran)⟩
  · refine absurd ?_ (outcomeOf_error_ne_done matching criteria format error output)
    exact (applyCriteria_fst opened).symm.trans (congrArg Prod.fst ran)
  · unfold applyCriteria at ran
    rw [run_bind_of_run opened] at ran
    cases (run_pure ran).1

theorem explainAndApply_done
    (ran : (explainAndApply matching input criteria format explained : StateM Machine _).run
      machine = (.done output, after)) :
    ∃ content, fed machine input = .ok content ∧
      outcomeOf matching criteria format (Lines.flow (sourceName input) content) =
        .done output := by
  unfold explainAndApply at ran
  split at ran
  · obtain ⟨answer, middle, told, ran⟩ := run_bind ran
    have undisturbed := (inquires_explain matching criteria).undisturbed told
    cases answer with
    | error error => cases (run_pure ran).1
    | ok =>
      obtain ⟨content, -, holds, kept⟩ := applyCriteria_done ran
      exact ⟨content, (fed_of_undisturbed undisturbed).symm.trans holds, kept⟩
  · obtain ⟨content, -, holds, kept⟩ := applyCriteria_done ran
    exact ⟨content, holds, kept⟩

theorem execute_apply_done {settings : Settings} {directory : Option String} {now : Time.Instant}
    (ran : (execute settings directory now (.apply input source format explained) :
      StateM Machine _).run machine = (.done output, after)) :
    ∃ criteria content,
      Supplies machine (directory.map fun place => ⟨place, settings.matching⟩) source criteria ∧
      fed machine input = .ok content ∧
      outcomeOf settings.matching criteria format (Lines.flow (sourceName input) content) =
        .done output := by
  cases source with
  | given criteria =>
    obtain ⟨content, holds, kept⟩ := explainAndApply_done ran
    exact ⟨criteria, content, rfl, holds, kept⟩
  | saved name =>
    unfold execute withStore at ran
    cases directory with
    | none => cases (run_pure ran).1
    | some place =>
      obtain ⟨answer, middle, loaded, ran⟩ := run_bind ran
      have undisturbed := (Store.inquires_load _ name).undisturbed loaded
      match answer, ran with
      | .error error, ran => cases (run_pure ran).1
      | .ok none, ran => cases (run_pure ran).1
      | .ok (some filter), ran =>
        have found := Store.loads_some_of_run (congrArg Prod.fst loaded)
        obtain ⟨content, holds, kept⟩ := explainAndApply_done ran
        exact ⟨filter.criteria, content, ⟨_, filter, rfl, found, rfl⟩,
          (fed_of_undisturbed undisturbed).symm.trans holds, kept⟩

theorem run_apply_done {surroundings : Surroundings} {now : Time.Instant} {invocation : Invocation}
    (applies : invocation.command = .apply input source format explained)
    (ran : (run surroundings now invocation : StateM Machine _).run machine =
      (.done output, after)) :
    ∃ settings criteria content,
      ((Settings.load invocation.settings : StateM Machine _).run machine).1 = .ok settings ∧
      Supplies machine (store? surroundings invocation settings) source criteria ∧
      fed machine input = .ok content ∧
      outcomeOf (matchingOf invocation settings) criteria format
        (Lines.flow (sourceName input) content) = .done output := by
  obtain ⟨answer, early, loaded, ran⟩ := run_bind ran
  cases answer with
  | error error => cases (run_pure ran).1
  | ok settings =>
    obtain ⟨_, noted, note, ran⟩ := run_bind ran
    have undisturbed := ((inquires_load_settings _).undisturbed loaded).trans
      ((inquires_note _ _ _ _).undisturbed note)
    rw [applies] at ran
    obtain ⟨criteria, content, supplied, holds, kept⟩ := execute_apply_done ran
    have supplied := supplied.earlier undisturbed.toUntouched
    have holds := (fed_of_undisturbed undisturbed).symm.trans holds
    refine ⟨settings, criteria, content, congrArg Prod.fst loaded, ?_, holds, ?_⟩
    · unfold store?
      generalize invocation.caseSensitive = sensitive at supplied ⊢
      cases sensitive <;> exact supplied
    · unfold matchingOf
      generalize invocation.caseSensitive = sensitive at kept ⊢
      cases sensitive <;> exact kept

end Done

theorem eq_done_of_finish {outcome : Outcome} {output : String} {machine : Machine}
    (zero : ((finish outcome : StateM Machine _).run machine).1 = (0, output)) :
    outcome = .done output := by
  obtain ⟨text, ending⟩ := outcome
  cases ending <;> cases zero
  rfl

end Command

end LogSieve
