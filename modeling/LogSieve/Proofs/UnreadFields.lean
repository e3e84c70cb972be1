import LogSieve.Proofs.Operands
import LogSieve.Proofs.Rearrangement

/-! What an expression does not read makes no difference. A condition reads one field of a record,
and every other stage knows records by their keys. So a change of the records that keeps the keys
and the fields that conditions name goes through an expression unnoticed: running the expression
over the changed records is changing the records of the run, item by item, whatever happens to the
signal meanwhile. -/

namespace LogSieve

/-! What a condition reads -/

/-- The records have the same in a field, as far as comparisons can tell: a level is known by its
meaning and a time by its instant, so records that are equal there agree. -/
def Field.Agrees (first second : Record) : Field → Prop
  | timestamp => first.timestamp.instant = second.timestamp.instant
  | level => first.severity = second.severity
  | message => first.message = second.message
  | node => first.node = second.node
  | processId => first.processId = second.processId
  | username => first.username = second.username

namespace Test

@[simp] def field : Test → Field
  | level _ _ => .level
  | processId _ _ => .processId
  | timestamp _ _ => .timestamp
  | literal field _ _ _ => field
  | oneOf field _ _ _ => field
  | pattern field _ => field

variable {first second : Record}

theorem text?_eq_of_agrees {field : Field} (agrees : field.Agrees first second) :
    first.text? field = second.text? field := by
  cases field <;> simp_all [Field.Agrees, Record.text?]

theorem accepts_eq_of_agrees {test : Test} (agrees : test.field.Agrees first second) :
    test.accepts first = test.accepts second := by
  cases test with
  | level | processId | timestamp => simp_all [accepts, Field.Agrees]
  | literal field | oneOf field | pattern field =>
    have same : first.text? field = second.text? field := text?_eq_of_agrees agrees
    simp only [accepts, same]

end Test

namespace Comparison

variable {value : Json}

theorem gives_readText (field : Field) (operator : Operator) (matching : Matching) :
    Gives (fun test : Test => test.field = field) (readText field operator matching value) := by
  cases operator with
  | isIn | notIn => exact Gives.bind fun items _ => Gives.bind fun texts _ => gives_ok rfl
  | regex =>
    cases value with
    | string text =>
      rw [readText]
      split
      · exact gives_ok rfl
      · exact gives_error _
    | _ => exact gives_error _
  | _ =>
    cases value with
    | string text => exact gives_ok rfl
    | _ => exact gives_error _

theorem gives_readTest (comparison : Comparison) :
    Gives (fun test : Test => test.field = comparison.field) (comparison.readTest value) := by
  obtain ⟨field, operator, matching, _⟩ := comparison
  cases field with
  | level | processId | timestamp => exact Gives.map fun operand => rfl
  | message | node | username => exact gives_readText _ operator matching

end Comparison

def Leaf.Compiled (condition : Leaf) : Prop :=
  ∃ matching criterion, ofCriterion matching criterion = .ok condition

theorem Leaf.accepts_of_ofComparison {comparison : Comparison} {value : Json} {condition : Leaf}
    (made : ofComparison comparison value = .ok condition) :
    ∃ test : Test, condition.accepts = test.accepts ∧ test.field = condition.field := by
  obtain ⟨test, tested, made⟩ := bind_eq_ok.mp made
  have read := comparison.gives_readTest test (Comparison.readTest_of_test tested)
  have same := Except.ok.inj made
  exact ⟨test, by rw [← same], by rw [← same, read]⟩

theorem Leaf.Compiled.accepts_eq {condition : Leaf} (compiled : condition.Compiled)
    {first second : Record} (agrees : condition.field.Agrees first second) :
    condition.accepts first = condition.accepts second := by
  obtain ⟨matching, criterion, made⟩ := compiled
  obtain ⟨comparison, -, made⟩ := bind_eq_ok.mp made
  obtain ⟨test, accepts, field⟩ := accepts_of_ofComparison made
  rw [accepts]
  exact Test.accepts_eq_of_agrees (field ▸ agrees)

/-! Changes of the records of a flow -/

@[simp] def Item.mapRecords (change : Record → Record) : Item → Item
  | record found => record (change found)
  | error reason => error reason

namespace Flow

@[simp] def Event.mapRecords (change : Record → Record) : Event → Event
  | give found => give (found.mapRecords change)
  | fire => fire
  | pause => pause

@[simp] def mapRecords (change : Record → Record) : Flow → Flow
  | ended => ended
  | pause rest => pause (mapRecords change rest)
  | idle woken => idle (mapRecords change woken)
  | item found rest => item (found.mapRecords change) (mapRecords change rest)
  | mark event rest => mark event (mapRecords change rest)
  | check given notGiven => check (mapRecords change given) (mapRecords change notGiven)

variable {change : Record → Record}

@[simp] theorem mapRecords_cancelled : cancelled.mapRecords change = cancelled := rfl

@[simp] theorem mapRecords_ofRecords (records : List Record) :
    (ofRecords records).mapRecords change = ofRecords (records.map change) := by
  induction records with
  | nil => rfl
  | cons record rest ih => simp [ofRecords, ih]

@[simp] theorem mapRecords_ofEvents (events : List Event) :
    (ofEvents events).mapRecords change = ofEvents (events.map (Event.mapRecords change)) := by
  have answered : (ofEvents.answer events).mapRecords change =
      ofEvents.answer (events.map (Event.mapRecords change)) := by
    induction events with
    | nil => rfl
    | cons event rest ih => cases event <;> simp [ofEvents.answer, ih]
  simp [ofEvents, answered]

theorem mapRecords_lastAnswer (flow : Flow) :
    (lastAnswer flow).mapRecords change = lastAnswer (flow.mapRecords change) := by
  induction flow with
  | ended | pause | item => rfl
  | idle woken ih => exact ih
  | mark event rest ih => simp [lastAnswer, ih]
  | check given notGiven ih => exact ih

@[simp] theorem mapRecords_guarded (flow : Flow) :
    (guarded flow).mapRecords change = guarded (flow.mapRecords change) := by
  have behind : (guarded.behind flow).mapRecords change =
      guarded.behind (flow.mapRecords change) := by
    induction flow <;> simp_all [guarded.behind, mapRecords_lastAnswer]
  simp [guarded, behind]

@[simp] theorem mapRecords_sift {accepts : Record → Bool}
    (same : ∀ record, accepts (change record) = accepts record) (flow : Flow) :
    (sift accepts flow).mapRecords change = sift accepts (flow.mapRecords change) := by
  induction flow with
  | item found rest ih =>
    cases found with
    | record record =>
      by_cases accepted : accepts record <;> simp [sift, same, accepted, ih]
    | error error => simp [sift, ih]
  | _ => simp_all [sift]

theorem mapRecords_gather {use : List Record → Flow}
    (each : ∀ records, (use records).mapRecords change = use (records.map change))
    (taken : List Record) (flow : Flow) :
    (gather use taken flow).mapRecords change =
      gather use (taken.map change) (flow.mapRecords change) := by
  induction flow generalizing taken with
  | item found rest ih =>
    cases found with
    | record record => simp [gather, ih]
    | error error => rfl
  | _ => simp_all [gather]

section Keys

variable (sameKey : ∀ record, (change record).key = record.key)
include sameKey

theorem mapRecords_fresh {next others : List RecordKey → Flow}
    (each : ∀ seen, (next seen).mapRecords change = others seen) (seen : List RecordKey)
    (flow : Flow) :
    (fresh next seen flow).mapRecords change = fresh others seen (flow.mapRecords change) := by
  induction flow generalizing seen with
  | item found rest ih =>
    cases found with
    | record record =>
      by_cases known : record.key ∈ seen <;> simp [fresh, sameKey, known, ih]
    | error error => rfl
  | _ => simp_all [fresh]

theorem mapRecords_keys {use others : List RecordKey → Flow}
    (each : ∀ found, (use found).mapRecords change = others found) (found : List RecordKey)
    (flow : Flow) :
    (keys use found flow).mapRecords change = keys others found (flow.mapRecords change) := by
  induction flow generalizing found with
  | item met rest ih =>
    cases met with
    | record record => simp [keys, sameKey, ih]
    | error error => rfl
  | _ => simp_all [keys]

theorem mapRecords_remaining (excluded : List RecordKey) (records : List Record) :
    (remaining excluded records).mapRecords change =
      remaining excluded (records.map change) := by
  induction records with
  | nil => rfl
  | cons record rest ih =>
    by_cases known : record.key ∈ excluded <;> simp [remaining, sameKey, known, ih]

end Keys

/-! Requests -/

theorem pull_mapRecords (flow : Flow) (tally : Tally) :
    (flow.mapRecords change).pull tally =
      ⟨(flow.pull tally).item.map (Item.mapRecords change),
        (flow.pull tally).rest.mapRecords change, (flow.pull tally).tally⟩ := by
  induction flow generalizing tally with
  | ended | pause | item => rfl
  | idle woken ih => by_cases fired : tally.fired <;> simp [pull, fired, ih]
  | mark event rest ih => simp [pull, ih]
  | check given notGiven ihGiven ih =>
    by_cases fired : tally.fired <;> simp [pull, fired, ihGiven, ih]

theorem drain_mapRecords (flow : Flow) (tally : Tally) :
    (flow.mapRecords change).drain tally =
      ((flow.drain tally).1.map (Item.mapRecords change),
        (flow.drain tally).2.1.mapRecords change, (flow.drain tally).2.2) := by
  induction flow generalizing tally with
  | ended | pause => rfl
  | idle woken ih => by_cases fired : tally.fired <;> simp [drain, fired, ih]
  | item found rest ih | mark event rest ih => simp [drain, ih]
  | check given notGiven ihGiven ih =>
    by_cases fired : tally.fired <;> simp [drain, fired, ihGiven, ih]

theorem items_mapRecords (flow : Flow) :
    (flow.mapRecords change).items = flow.items.map (Item.mapRecords change) := by
  simp [items, drain_mapRecords]

theorem serve_mapRecords (requests : List Request) (flow : Flow) (tally : Tally) :
    (flow.mapRecords change).serve tally requests =
      ((flow.serve tally requests).1.map (Option.map (Item.mapRecords change)),
        (flow.serve tally requests).2) := by
  induction requests generalizing flow tally with
  | nil => rfl
  | cons request rest ih => cases request <;> simp [serve, pull_mapRecords, ih]

end Flow

open LogSieve.Flow

namespace Expression

/-- Running the expression over changed records is changing the records of the run. -/
def Overlooks (change : Record → Record) (expression : Expression) : Prop :=
  ∀ source : Flow, (expression.evaluate source).mapRecords change =
    expression.evaluate (source.mapRecords change)

variable {change : Record → Record}

theorem Overlooks.foldl {order : List Expression} (each : ∀ part ∈ order, part.Overlooks change)
    (flow : Flow) :
    (order.foldl (fun flow part => part.evaluate flow) flow).mapRecords change =
      order.foldl (fun flow part => part.evaluate flow) (flow.mapRecords change) := by
  induction order generalizing flow with
  | nil => rfl
  | cons part order ih =>
    rw [List.foldl_cons, List.foldl_cons, ih fun other member => each other (by simp [member]),
      each part (by simp)]

theorem Overlooks.alternatives {parts : List Expression}
    (sameKey : ∀ record, (change record).key = record.key)
    (each : ∀ part ∈ parts, part.Overlooks change) (source : Flow) (seen : List RecordKey) :
    (alternatives parts source seen).mapRecords change =
      alternatives parts (source.mapRecords change) seen := by
  induction parts generalizing seen with
  | nil => rfl
  | cons part parts ih =>
    have later := ih fun other member => each other (by simp [member])
    simp [Expression.alternatives, mapRecords_fresh sameKey later, each part (by simp) source]

theorem overlooks (expression : Expression)
    (sameKey : ∀ record, (change record).key = record.key)
    (same : ∀ condition ∈ expression.conditions, ∀ record,
      condition.accepts (change record) = condition.accepts record) :
    expression.Overlooks change := by
  induction expression using Expression.induction with
  | leaf condition =>
    intro source
    simp [evaluate, mapRecords_sift (same condition List.mem_cons_self)]
  | allOf planned parts ih =>
    intro source
    have each : ∀ part ∈ (allOf planned parts).executionOrder, part.Overlooks change := by
      intro part member
      have ran := mem_executionOrder.mp member
      exact ih part ran fun condition known => same condition (conditions_subset ran known)
    rw [evaluate_allOf, evaluate_allOf, Overlooks.foldl each, mapRecords_guarded]
  | anyOf parts ih =>
    intro source
    cases parts with
    | nil => exact mapRecords_guarded source
    | cons part parts =>
      have each : ∀ other ∈ part :: parts, other.Overlooks change := fun other member =>
        ih other member fun condition known => same condition (conditions_subset member known)
      -- Every part is given the taken records anew, and these have been changed.
      have mapped (records : List Record) :
          (alternatives (part :: parts) (ofRecords records) []).mapRecords change =
            alternatives (part :: parts) (ofRecords (records.map change)) [] := by
        rw [Overlooks.alternatives sameKey each, mapRecords_ofRecords]
      simp [evaluate, mapRecords_gather mapped]
  | complement part ih =>
    intro source
    have overlooked := ih same
    have mapped (records : List Record) :
        (keys (fun excluded => remaining excluded records) []
          (part.evaluate (ofRecords records))).mapRecords change =
          keys (fun excluded => remaining excluded (records.map change)) []
            (part.evaluate (ofRecords (records.map change))) := by
      rw [mapRecords_keys sameKey fun found => mapRecords_remaining sameKey found records,
        overlooked, mapRecords_ofRecords]
    simp [evaluate, mapRecords_gather mapped]

/-- Whoever asks for conditions by their names never sees a difference that a change of other fields
makes: the same items come in the same order, changed, and the same answers to the same requests,
with as much taken from the source. -/
theorem serve_evaluate_mapRecords (expression : Expression)
    (compiled : ∀ condition ∈ expression.conditions, condition.Compiled)
    (sameKey : ∀ record, (change record).key = record.key)
    (sameFields : ∀ condition ∈ expression.conditions, ∀ record,
      condition.field.Agrees (change record) record)
    (events : List Event) (requests : List Request) :
    let flow := expression.evaluate (ofEvents events)
    let changed := expression.evaluate (ofEvents (events.map (Event.mapRecords change)))
    changed.items = flow.items.map (Item.mapRecords change) ∧
      changed.serve .start requests =
        ((flow.serve .start requests).1.map (Option.map (Item.mapRecords change)),
          (flow.serve .start requests).2) := by
  intro flow changed
  have overlooked := expression.overlooks sameKey fun condition known record =>
    (compiled condition known).accepts_eq (sameFields condition known record)
  have same : changed = flow.mapRecords change := by
    rw [overlooked, mapRecords_ofEvents]
  rw [same]
  exact ⟨items_mapRecords flow, serve_mapRecords requests flow .start⟩

theorem serve_evaluate_mapRecords_blanked :
    let line (number : Nat) (level message : String) (username : Option String) : Record :=
      ⟨"app.log", number, .utc ⟨0, 0⟩, level, message, "", none, username⟩
    let blanked (record : Record) : Record := { record with message := "" }
    let isError : Leaf :=
      ⟨.level, .equals, .string "error", (Test.level .equals (.single .error)).accepts⟩
    let isRoot : Leaf :=
      ⟨.username, .equals, .string "root", (Test.literal .username .equals false "root").accepts⟩
    let expression := anyOf [leaf isError, complement (leaf isRoot)]
    let events : List Event := [.give (.record (line 1 "info" "net" none)),
      .give (.record (line 2 "Error" "disk" (some "root"))),
      .give (.record (line 2 "error" "again" none))]
    Leaf.ofCriterion ⟨false⟩ ⟨"level", "equals", .string "error"⟩ = .ok isError ∧
      Leaf.ofCriterion ⟨false⟩ ⟨"user", "equals", .string "root"⟩ = .ok isRoot ∧
      (expression.evaluate (ofEvents (events.map (Event.mapRecords blanked)))).items =
        [.record (line 2 "Error" "" (some "root")), .record (line 1 "info" "" none)] := by
  intro line blanked isError isRoot expression events
  have errors : Leaf.ofCriterion ⟨false⟩ ⟨"level", "equals", .string "error"⟩ = .ok isError := rfl
  have roots : Leaf.ofCriterion ⟨false⟩ ⟨"user", "equals", .string "root"⟩ = .ok isRoot := rfl
  have compiled : ∀ condition ∈ expression.conditions, condition.Compiled := by
    simpa [expression, conditions, conditionsIn] using ⟨⟨_, _, errors⟩, ⟨_, _, roots⟩⟩
  have sameFields : ∀ condition ∈ expression.conditions, ∀ record,
      condition.field.Agrees (blanked record) record := by
    simp [expression, conditions, conditionsIn, isError, isRoot, blanked, Field.Agrees,
      Record.severity]
  have found : (expression.evaluate (ofEvents events)).items =
      [.record (line 2 "Error" "disk" (some "root")), .record (line 1 "info" "net" none)] := by
    decide +kernel
  have sameKey : ∀ record, (blanked record).key = record.key := fun _ => rfl
  obtain ⟨items, -⟩ := serve_evaluate_mapRecords expression compiled sameKey sameFields events []
  refine ⟨errors, roots, ?_⟩
  rw [items, found]
  rfl

end Expression

end LogSieve
