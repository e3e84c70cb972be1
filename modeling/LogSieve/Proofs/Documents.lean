import LogSieve.Proofs.Json.Records
import LogSieve.Proofs.Timestamps
import LogSieve.SavedFilter

/-! A document holds its filter: reading what was written gives the same filter back, with every
name, operand and instant. -/

namespace LogSieve

open Json

namespace Json

theorem whole_of_reads {step : Step α} {text : List Char} {result : α}
    (reads : Reads step text result) : whole step (String.ofList text) = .ok result := by
  have taken : step text = .ok (result, []) := by
    rw [← List.append_nil text]
    exact reads [] [] isGap_nil trivial
  rw [whole, String.toList_ofList, taken]
  rfl

theorem Form.reads_writeIndented {draft record : Type} {form : Form draft record} {brackets : Nat}
    {level : Nat} {last : draft} {list : List (String × Json)} {result : record}
    (fills : Form.Fills form brackets (writeIndented (level + 1)) form.blank list last)
    (full : form.finish last = .ok result) :
    Reads (form.read (brackets + 1)) (writeIndented level (.object list)) result := by
  rw [writeIndented_object]
  exact Form.reads_object (isGap_breakLine _) (isGap_closing _ _) isGap_blank fills full

end Json

namespace Criterion

/-- The operand comes back as it was: its numbers are integers, its fields in order, and it does not
nest deeper than a hundred levels. -/
structure Storable (criterion : Criterion) : Prop where
  exact : criterion.value.Exact
  ordered : criterion.value.Ordered
  shallow : criterion.value.depth ≤ 100

theorem reads_toJson {criterion : Criterion} (storable : criterion.Storable) (level : Nat)
    {brackets : Nat} (room : 100 ≤ brackets) :
    Reads (form.read (brackets + 1)) (writeIndented level criterion.toJson) criterion := by
  obtain ⟨exact, ordered, shallow⟩ := storable
  have value := reads_writeIndented (level + 1) brackets criterion.value exact ordered
    (Nat.le_trans shallow room)
  have fills : Form.Fills form brackets (writeIndented (level + 1)) form.blank
      [("field", .string criterion.field), ("operator", .string criterion.operator),
        ("value", criterion.value)]
      ⟨some criterion.field, some criterion.operator, some criterion.value⟩ :=
    .cons _ rfl rfl
      ((reads_anyText criterion.field).map fun field => (⟨some field, none, none⟩ : Draft))
    (.cons _ rfl rfl
      ((reads_anyText criterion.operator).map fun operator =>
        (⟨some criterion.field, some operator, none⟩ : Draft))
    (.cons _ rfl rfl
      (value.map fun value =>
        (⟨some criterion.field, some criterion.operator, some value⟩ : Draft)) (.nil _)))
  exact Form.reads_writeIndented fills rfl

end Criterion

namespace Record

theorem reads_anyStamp {stamp : Time.Stamp} (dated : stamp.Dated) :
    Reads anyStamp (writeString (stamp.write .needed)) stamp := by
  refine reads_parsed ?_
  rw [Time.stamp, Time.Stamp.write, String.toList_ofList, Time.readRelaxed_chars dated]
  rfl

end Record

namespace SavedFilter

structure Storable (saved : SavedFilter) : Prop where
  criteria : ∀ criterion ∈ saved.criteria, criterion.Storable
  createdAt : ∀ instant ∈ saved.createdAt, instant.Shown
  lastModified : ∀ instant ∈ saved.lastModified, instant.Shown

/-- All that it takes for a filter to come back: a year may also have more than four digits or a
sign. -/
structure Recoverable (saved : SavedFilter) : Prop where
  criteria : ∀ criterion ∈ saved.criteria, criterion.Storable
  createdAt : ∀ instant ∈ saved.createdAt, instant.Dated
  lastModified : ∀ instant ∈ saved.lastModified, instant.Dated

theorem Storable.recoverable {saved : SavedFilter} (storable : saved.Storable) :
    saved.Recoverable where
  criteria := storable.criteria
  createdAt instant same := (storable.createdAt instant same).dated
  lastModified instant same := (storable.lastModified instant same).dated

theorem reads_criteria {criteria : List Criterion}
    (storable : ∀ criterion ∈ criteria, criterion.Storable) (level : Nat) {brackets : Nat}
    (room : 100 ≤ brackets) :
    Reads (listOf Criterion.form.read (brackets + 2))
      (writeIndented level (.array (criteria.map Criterion.toJson))) criteria := by
  rw [writeIndented_array, List.map_map]
  refine reads_listOf (isGap_breakLine _) (isGap_closing _ _) fun criterion member => ⟨?_, ?_⟩
  · rw [Function.comp_apply, Criterion.toJson, writeIndented_object]
    exact opens_cons _
  · exact Criterion.reads_toJson (storable criterion member) (level + 1) room

theorem reads_instant {instant : Time.Instant} (dated : instant.Dated) :
    Reads (orNull Record.anyStamp) (writeString (instant.write .needed))
      (some (Time.Stamp.utc instant)) := by
  refine reads_orNull (Record.reads_anyStamp dated.utc) ⟨'"', _, rfl, by decide⟩

def noted (instant : Option Time.Instant) : Option (Option Time.Stamp) :=
  instant.map fun instant => some (.utc instant)

theorem noted_instant (instant : Option Time.Instant) :
    ((noted instant).getD none).map (·.instant) = instant := by
  cases instant <;> rfl

def drafted (saved : SavedFilter) (createdAt lastModified : Option Time.Instant) : Draft :=
  ⟨some saved.name, some saved.schemaVersion, some saved.criteria, noted createdAt,
    noted lastModified⟩

theorem finish_drafted (saved : SavedFilter) :
    form.finish (saved.drafted saved.createdAt saved.lastModified) = .ok saved := by
  have same : form.finish (saved.drafted saved.createdAt saved.lastModified) =
      .ok ⟨saved.name, saved.schemaVersion, saved.criteria,
        ((noted saved.createdAt).getD none).map (·.instant),
        ((noted saved.lastModified).getD none).map (·.instant)⟩ := rfl
  rw [same, noted_instant, noted_instant]

def instantFields (name : String) (instant : Option Time.Instant) : List (String × Json) :=
  (instant.map fun instant => (name, Json.string (instant.write .needed))).toList

section Fields

variable {saved : SavedFilter} {brackets : Nat}

theorem fills_criteria (recoverable : saved.Recoverable) (brackets : Nat) (room : 100 ≤ brackets) :
    Form.Fills form (brackets + 2) (writeIndented 1) form.blank
      [("name", .string saved.name), ("schemaVersion", .string saved.schemaVersion),
        ("criteria", .array (saved.criteria.map Criterion.toJson))] (saved.drafted none none) :=
  .cons _ rfl rfl
    ((reads_anyText saved.name).map fun name => (⟨some name, none, none, none, none⟩ : Draft))
  (.cons _ rfl rfl
    ((reads_anyText saved.schemaVersion).map fun version =>
      (⟨some saved.name, some version, none, none, none⟩ : Draft))
  (.cons _ rfl rfl
    ((reads_criteria recoverable.criteria 1 room).map fun criteria =>
      (⟨some saved.name, some saved.schemaVersion, some criteria, none, none⟩ : Draft))
  (.nil _)))

theorem fills_createdAt (recoverable : saved.Recoverable) :
    Form.Fills form brackets (writeIndented 1) (saved.drafted none none)
      (instantFields "createdAt" saved.createdAt) (saved.drafted saved.createdAt none) := by
  cases same : saved.createdAt with
  | none => exact .nil _
  | some instant =>
    have read := reads_instant (recoverable.createdAt instant same)
    exact .cons _ rfl rfl (read.map fun createdAt =>
      { saved.drafted none none with createdAt := some createdAt }) (.nil _)

theorem fills_lastModified (recoverable : saved.Recoverable) :
    Form.Fills form brackets (writeIndented 1) (saved.drafted saved.createdAt none)
      (instantFields "lastModified" saved.lastModified)
      (saved.drafted saved.createdAt saved.lastModified) := by
  cases same : saved.lastModified with
  | none => exact .nil _
  | some instant =>
    have read := reads_instant (recoverable.lastModified instant same)
    exact .cons _ rfl rfl (read.map fun lastModified =>
      { saved.drafted saved.createdAt none with lastModified := some lastModified }) (.nil _)

end Fields

theorem Recoverable.reads_toJson {saved : SavedFilter} (recoverable : saved.Recoverable)
    {brackets : Nat} (room : 100 ≤ brackets) :
    Reads (form.read (brackets + 3)) (writeIndented 0 saved.toJson) saved := by
  have fills := ((fills_criteria recoverable brackets room).append
    (fills_createdAt recoverable)).append (fills_lastModified recoverable)
  exact Form.reads_writeIndented fills (finish_drafted saved)

theorem reads_toJson {saved : SavedFilter} (storable : saved.Storable) {brackets : Nat}
    (room : 100 ≤ brackets) :
    Reads (form.read (brackets + 3)) (writeIndented 0 saved.toJson) saved :=
  storable.recoverable.reads_toJson room

theorem ofDocument_eq (saved : SavedFilter) :
    ofDocument saved.document =
      whole (form.read bracketLimit) (String.ofList (writeIndented 0 saved.toJson)) := rfl

/-- Reading the document of a filter gives the filter. -/
theorem ofDocument_document (saved : SavedFilter) (storable : saved.Storable) :
    ofDocument saved.document = .ok saved := by
  rw [ofDocument_eq]
  exact whole_of_reads (reads_toJson storable (by decide : 100 ≤ bracketLimit - 3))

theorem ofDocument_document_nested :
    let operand : Json := .array [.integer (-7), .string "a \"quoted\"\n\u00e4",
      .object [("deep", .array []), ("flag", .bool true), ("none", .null)]]
    let saved : SavedFilter := ⟨"night shift", "2.0", [⟨"node", "in", operand⟩], some ⟨0, 5000000⟩,
      some ⟨1483228799, 1500000000⟩⟩
    saved.Storable ∧ ofDocument saved.document = .ok saved := by
  intro operand saved
  have exact : operand.Exact :=
    ⟨(by decide : IntegerRange (-7)), trivial, ⟨trivial, trivial, trivial, trivial⟩, trivial⟩
  have ordered : operand.Ordered :=
    ⟨trivial, trivial, ⟨by decide, trivial, trivial, trivial, trivial⟩, trivial⟩
  have storable : saved.Storable := {
    criteria := fun criterion member => by
      rw [List.mem_singleton.mp member]
      exact ⟨exact, ordered, by decide⟩
    createdAt := fun instant same => by
      cases same
      exact ⟨by decide, by decide⟩
    lastModified := fun instant same => by
      cases same
      exact ⟨by decide, by decide⟩ }
  exact ⟨storable, ofDocument_document saved storable⟩

end SavedFilter

end LogSieve
