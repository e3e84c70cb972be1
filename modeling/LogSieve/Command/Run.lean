import LogSieve.Command.Basic
import LogSieve.Lines
import LogSieve.Settings
import LogSieve.Sieve
import LogSieve.Store
import LogSieve.Text.Table

/-! Carrying out commands. A command leaves a text on standard output and ends well, with a refusal
or with a failure; all that is told beside the output are reports. -/

namespace LogSieve.Command

open Files Text

inductive Ending where
  | done
  | refused
  | failed (layers : List String)
  deriving DecidableEq, Repr

structure Outcome where
  output : String
  ending : Ending
  deriving DecidableEq, Repr

namespace Outcome

def done (output : String) : Outcome := ⟨output, .done⟩

def refused (output : String) : Outcome := ⟨output, .refused⟩

def failed (layers : List String) : Outcome := ⟨"", .failed layers⟩

end Outcome

def linesText (lines : List String) : String := String.join (lines.map fun line => line ++ "\n")

/-- A store error as layers: what it says, and what lies behind it. -/
def storeLayers (error : StoreError) : List String :=
  error.message :: match error with
    | .unreadable trouble => [trouble.message]
    | .files _ fault => [fault.message]
    | _ => []

def settingsLayers (error : SettingsError) : List String := [error.message, error.cause]

def findingsLines (findings : Findings) : List String :=
  findings.errors.map (fun error => "error: " ++ error) ++
    findings.warnings.map (fun warning => "warning: " ++ warning) ++
    if findings.valid then ["Criteria are valid."] else []

def findingsOutcome (findings : Findings) : Outcome :=
  ⟨linesText (findingsLines findings), if findings.valid then .done else .refused⟩

def fieldRow (field : Field) : List String :=
  let operators := ", ".intercalate (field.operators.map Operator.name)
  [field.name, field.kind.name, operators, field.describe]

def fieldsOutcome : Outcome :=
  .done (linesText (Table.lines ["Field", "Kind", "Operators", "Description"]
    (Field.all.map fieldRow)))

def operatorsOutcome (field : String) : Outcome :=
  match Field.ofText? field with
  | some found => .done (linesText (found.operators.map Operator.name))
  | none => .failed [(FilterError.unsupportedField field).message]

def topic : String := "log_filter"

def planTopic : String := "log_filter::filter::service"

variable {m : Type → Type} [Monad m] [Host m]

/-! Applying criteria -/

def notePlanned (position : Nat) : List Planned → m Unit
  | [] => return
  | planned :: rest => do
    Host.note .debug planTopic "planned filter criterion"
      [("position", toString position), ("criterion", planned.criterion.term),
        ("selectivity", Decimal.Layout.trace.float planned.selectivity),
        ("cost", Decimal.Layout.trace.float planned.cost),
        ("score", Decimal.Layout.trace.float planned.score)]
    notePlanned (position + 1) rest

def notedPlan (matching : Matching) (criteria : List Criterion) :
    m (Except FilterError (List Planned)) := do
  match plan matching criteria with
  | .error error => return .error error
  | .ok planned =>
    notePlanned 0 planned
    return .ok planned

def notedExpression (matching : Matching) (criteria : List Criterion) :
    m (Except FilterError Expression) := do
  if criteria.length ≠ 1 then
    let _ ← notedPlan matching criteria
  return expressionOf matching criteria

def plannedLine (number : Nat) (planned : Planned) : String :=
  s!"  {number}. {planned.criterion.term} (selectivity {Decimal.fixed 2 planned.selectivity}, " ++
    s!"cost {Decimal.fixed 2 planned.cost}, score {Decimal.fixed 3 planned.score})"

def reportLines : List String → m Unit
  | [] => return
  | line :: rest => do
    Host.report (.text line)
    reportLines rest

def explain (matching : Matching) (criteria : List Criterion) : m (Except FilterError Unit) := do
  match ← notedExpression matching criteria with
  | .error error => return .error error
  | .ok expression =>
    reportLines ["Filter: " ++ expression.description,
      "Estimated selectivity: " ++ Decimal.fixed 3 expression.selectivity]
    if 1 < criteria.length then
      match ← notedPlan matching criteria with
      | .error error => return .error error
      | .ok planned =>
        reportLines ((planned.zipIdx 1).map fun entry => plannedLine entry.2 entry.1)
        return .ok ()
    else return .ok ()

/-- The records of a file or of standard input. A directory can be opened but not read. -/
def inputFlow (input : String) : m (Except Fault Flow) := do
  if Path.isDash input then return .ok (Lines.flow "stdin" (← Host.input))
  match ← Host.read input with
  | .ok content => return .ok (Lines.flow input content)
  | .error fault =>
    if fault = .directory then
      return .ok (.ofEvents [.give (.error (.invalidRecord 1 fault.message))])
    else return .error fault

def printed (format : Format) : List Item → List String × Option FilterError
  | [] => ([], none)
  | .error error :: _ => ([], some error)
  | .record record :: rest =>
    let (lines, error) := printed format rest
    (format.line record :: lines, error)

def printOutcome (format : Format) (flow : Flow) : m Outcome := do
  let (lines, error) := printed format flow.items
  match error with
  | some error => return ⟨linesText lines, .failed ["Filtering aborted", error.message]⟩
  | none =>
    Host.note .info topic "filter applied" [("count", toString lines.length)]
    return .done (linesText lines)

def applyCriteria (matching : Matching) (input : String) (criteria : List Criterion)
    (format : Format) : m Outcome := do
  match ← inputFlow input with
  | .error fault => return .failed [s!"Failed to open input file '{input}'", fault.message]
  | .ok source =>
    match sieve matching criteria source with
    | .error error => return .failed ["Failed to build filter", error.message]
    | .ok found =>
      match ← notedExpression matching criteria with
      | .error error => return .failed ["Failed to build filter", error.message]
      | .ok expression =>
        Host.note .debug planTopic "applying filter" [("filter", expression.description)]
        printOutcome format found

def orFail (result : Except StoreError α) (next : α → m Outcome) : m Outcome :=
  match result with
  | .ok value => next value
  | .error error => return .failed (storeLayers error)

def withSaved (store : Store) (name : String) (next : SavedFilter → m Outcome) : m Outcome := do
  orFail (← store.load name) fun
    | some filter => next filter
    | none => return .failed [s!"No saved configuration named '{name}'"]

def withStore (settings : Settings) (directory : Option String) (next : Store → m Outcome) :
    m Outcome :=
  match directory with
  | some directory => next ⟨directory, settings.matching⟩
  | none => return .failed ["No configuration directory available; pass --store-dir"]

def explainAndApply (matching : Matching) (input : String) (criteria : List Criterion)
    (format : Format) (explained : Bool) : m Outcome := do
  if explained && (review matching criteria).valid then
    match ← explain matching criteria with
    | .error error => return .failed [error.message]
    | .ok () => applyCriteria matching input criteria format
  else applyCriteria matching input criteria format

/-! Saved filters -/

def savingOutcome (verb name : String) (saving : Saving) : Outcome :=
  match saving.outcome with
  | .ok path => .done (linesText [s!"{verb} '{name}' to {path}"])
  | .error (.rejected findings) => { findingsOutcome findings with ending := .refused }
  | .error error => .failed (storeLayers error)

/-- Save criteria under a name; a filter that is already there keeps all but its criteria. -/
def saveCriteria (store : Store) (now : Time.Instant) (name : String) (criteria : List Criterion) :
    m Outcome := do
  orFail (← store.load name) fun existing => do
    let filter := match existing with
      | some filter => { filter with criteria := criteria }
      | none => .fresh name criteria
    return savingOutcome "Saved" name (← store.save now false filter)

def filterLines (filter : SavedFilter) : List String :=
  [s!"{filter.name} (schema {filter.schemaVersion})"] ++
    (filter.lastModified.map fun instant => "Last modified: " ++ instant.write .none).toList ++
    filter.criteria.map fun criterion => "  " ++ criterion.term

def namesLines (directory : String) (names : List String) : List String :=
  if names.isEmpty then ["No saved configurations in " ++ directory] else names

def inputText (input : String) : m (Except (List String) String) := do
  let unread (fault : Fault) : Except (List String) String :=
    .error [s!"Failed to read '{input}'", fault.message]
  if Path.isDash input then
    match Host.decoded (← Host.input) with
    | .ok text => return .ok text
    | .error fault => return unread fault
  match ← Host.readText input with
  | .ok text => return .ok text
  | .error fault =>
    if fault = .directory || fault = .noText then return unread fault
    else return .error [s!"Failed to open input file '{input}'", fault.message]

def exportFilter (store : Store) (name : String) (output : Option String) : m Outcome :=
  withSaved store name fun filter => do
    match output with
    | none => return .done (linesText [filter.document])
    | some path =>
      match ← Host.writeText path filter.document with
      | .ok () => return .done ""
      | .error fault => return .failed [s!"Failed to write output file '{path}'", fault.message]

def importFilter (store : Store) (now : Time.Instant) (file : String) : m Outcome := do
  match ← inputText file with
  | .error layers => return .failed layers
  | .ok text =>
    match SavedFilter.ofDocument text with
    | .error trouble => return .failed (storeLayers (.unreadable trouble))
    | .ok filter => return savingOutcome "Imported" filter.name (← store.save now false filter)

def deleteFilter (store : Store) (name : String) : m Outcome := do
  orFail (← store.delete name) fun removed =>
    return if removed then .done (linesText [s!"Deleted '{name}'"])
      else .refused (linesText [s!"No saved configuration named '{name}'"])

/-! All commands -/

def execute (settings : Settings) (directory : Option String) (now : Time.Instant) :
    Command → m Outcome
  | .fields => return fieldsOutcome
  | .operators field => return operatorsOutcome field
  | .validate criteria => return findingsOutcome (review settings.matching criteria)
  | .apply input (.given criteria) format explained =>
    explainAndApply settings.matching input criteria format explained
  | .apply input (.saved name) format explained =>
    withStore settings directory fun store => withSaved store name fun filter =>
      explainAndApply settings.matching input filter.criteria format explained
  | .save name criteria =>
    withStore settings directory fun store => saveCriteria store now name criteria
  | .describe name =>
    withStore settings directory fun store => withSaved store name fun filter =>
      return .done (linesText (filterLines filter))
  | .list =>
    withStore settings directory fun store => do
      orFail (← store.names) fun names =>
        return .done (linesText (namesLines store.directory names))
  | .delete name => withStore settings directory fun store => deleteFilter store name
  | .exportTo name output =>
    withStore settings directory fun store => exportFilter store name output
  | .importFrom file => withStore settings directory fun store => importFilter store now file

def run (surroundings : Surroundings) (now : Time.Instant) (invocation : Invocation) :
    m Outcome := do
  match ← Settings.load invocation.settings with
  | .error error => return .failed (settingsLayers error)
  | .ok loaded =>
    let settings : Settings :=
      if invocation.caseSensitive then { loaded with matching := ⟨true⟩ } else loaded
    Host.note .debug topic "loaded engine configuration" [("config", settings.shown)]
    let directory := invocation.directory.or (settings.filterDirectory surroundings)
    execute settings directory now invocation.command

def finish (outcome : Outcome) : m (Nat × String) := do
  match outcome.ending with
  | .done => return (0, outcome.output)
  | .refused => return (1, outcome.output)
  | .failed layers =>
    Host.report (.text ("Error: " ++ ": ".intercalate layers))
    return (1, outcome.output)

end LogSieve.Command
