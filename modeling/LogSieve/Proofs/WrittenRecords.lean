import LogSieve.Proofs.Json.OneLine
import LogSieve.Proofs.Readings

/-! Records are read as they were written. A record that has been read has a timestamp that clocks
show and numbers that fit, and such a record comes back from its one line as it was: with its
offset, and with the fields that it lacks still absent. -/

namespace LogSieve.Record

open Json

/-- All that it takes for a record to come back. -/
structure Restorable (record : Record) : Prop where
  timestamp : record.timestamp.Dated
  line : record.line < 0x10000000000000000
  processId : ∀ id ∈ record.processId, id < 0x100000000

def drafted (record : Record) (processId : Option Nat) (username : Option String) : Draft :=
  ⟨some record.source, some record.line, some record.timestamp, some record.level,
    some record.message, some record.node, processId.map some, username.map some⟩

theorem finish_drafted (record : Record) :
    form.finish (record.drafted record.processId record.username) = .ok record := by
  obtain ⟨source, line, timestamp, level, message, node, processId, username⟩ := record
  cases processId <;> cases username <;> rfl

section Fields

variable {record : Record} {brackets : Nat}

theorem fills_present (restorable : record.Restorable) :
    Form.Fills form brackets write form.blank
      [("source", .string record.source), ("lineNumber", .integer record.line),
        ("timestamp", .string (record.timestamp.write .needed)), ("level", .string record.level),
        ("message", .string record.message), ("node", .string record.node)]
      (record.drafted none none) := by
  have line : Reads (natural "usize" 0x10000000000000000) (writeInteger record.line) record.line :=
    reads_natural _ restorable.line (Nat.le_refl _)
  let named : Draft := { form.blank with source := some record.source }
  let numbered : Draft := { named with line := some record.line }
  let dated : Draft := { numbered with timestamp := some record.timestamp }
  let graded : Draft := { dated with level := some record.level }
  let told : Draft := { graded with message := some record.message }
  exact
    .cons _ rfl rfl ((reads_anyText record.source).map fun source =>
      { form.blank with source := some source })
    (.cons _ rfl rfl (line.map fun line => { named with line := some line })
    (.cons _ rfl rfl ((reads_anyStamp restorable.timestamp).map fun timestamp =>
      { numbered with timestamp := some timestamp })
    (.cons _ rfl rfl ((reads_anyText record.level).map fun level =>
      { dated with level := some level })
    (.cons _ rfl rfl ((reads_anyText record.message).map fun message =>
      { graded with message := some message })
    (.cons _ rfl rfl ((reads_anyText record.node).map fun node => { told with node := some node })
    (.nil _))))))

theorem fills_processId (restorable : record.Restorable) :
    Form.Fills form brackets write (record.drafted none none)
      (record.processId.map fun id => ("processId", Json.integer id)).toList
      (record.drafted record.processId none) := by
  cases same : record.processId with
  | none => exact .nil _
  | some id =>
    have number : Reads (natural "u32" 0x100000000) (writeInteger id) id :=
      reads_natural _ (restorable.processId id same) (by decide)
    have read : Reads (orNull (natural "u32" 0x100000000)) (writeInteger id) (some id) := by
      obtain ⟨c, rest, same, digit⟩ := writeInteger_eq_cons id
      exact reads_orNull number ⟨c, rest, same, isGap_of_isDigit digit, ne_of_isDigit digit⟩
    exact .cons _ rfl rfl (read.map fun processId =>
      { record.drafted none none with processId := some processId }) (.nil _)

theorem fills_username :
    Form.Fills form brackets write (record.drafted record.processId none)
      (record.username.map fun name => ("username", Json.string name)).toList
      (record.drafted record.processId record.username) := by
  cases record.username with
  | none => exact .nil _
  | some name =>
    have read : Reads (orNull anyText) (writeString name) (some name) :=
      reads_orNull (reads_anyText name) ⟨'"', _, rfl, by decide⟩
    exact .cons _ rfl rfl (read.map fun username =>
      { record.drafted record.processId none with username := some username }) (.nil _)

end Fields

theorem Restorable.reads_toJson {record : Record} (restorable : record.Restorable)
    (brackets : Nat) : Reads (form.read (brackets + 1)) (write record.toJson) record := by
  refine Form.reads_write ?_ (finish_drafted record)
  exact ((fills_present restorable).append (fills_processId restorable)).append fills_username

theorem Restorable.ofText_compact {record : Record} (restorable : record.Restorable) :
    ofText record.toJson.compact = .ok record := by
  have decoded : ofText record.toJson.compact =
      whole (form.read bracketLimit) (String.ofList (write record.toJson)) := rfl
  rw [decoded]
  exact whole_of_reads (restorable.reads_toJson (bracketLimit - 1))

theorem Restorable.exact_toJson {record : Record} (restorable : record.Restorable) :
    record.toJson.Exact := by
  obtain ⟨source, line, timestamp, level, message, node, processId, username⟩ := record
  have numbered : IntegerRange line := by
    have fits := restorable.line
    simp [IntegerRange] at fits ⊢
    omega
  have identified : ∀ id ∈ processId, IntegerRange (id : Nat) := by
    intro id same
    have fits := restorable.processId id same
    simp [IntegerRange]
    omega
  cases processId <;> cases username <;>
    simp_all [toJson, Exact, ExactFields]

/-! ### What is read -/

theorem required_eq_ok {name : String} {present : Option α} {value : α}
    (found : required name present = .ok value) : present = some value := by
  cases present <;> cases found
  rfl

structure Draft.Restorable (draft : Draft) : Prop where
  timestamp : ∀ stamp ∈ draft.timestamp, stamp.Dated
  line : ∀ line ∈ draft.line, line < 0x10000000000000000
  processId : ∀ id ∈ draft.processId.join, id < 0x100000000

theorem preserves_restorable : Form.Preserves form Draft.Restorable := by
  intro member known brackets state text restorable
  obtain ⟨timestamp, line, processId⟩ := restorable
  simp only [form, List.mem_cons, List.not_mem_nil, or_false] at known
  obtain rfl | rfl | rfl | rfl | rfl | rfl | rfl | rfl := known
  all_goals
    refine Gives.bind fun found read => ?_
    rintro _ ⟨⟩
  · exact ⟨timestamp, line, processId⟩
  · refine ⟨timestamp, ?_, processId⟩
    rintro _ ⟨⟩
    exact natural_gives _ _ _ _ read
  · refine ⟨?_, line, processId⟩
    rintro _ ⟨⟩
    exact anyStamp_gives _ _ read
  · exact ⟨timestamp, line, processId⟩
  · exact ⟨timestamp, line, processId⟩
  · exact ⟨timestamp, line, processId⟩
  · exact ⟨timestamp, line, orNull_gives (natural_gives _ _) _ _ read⟩
  · exact ⟨timestamp, line, processId⟩

theorem ofText_gives (text : String) : Gives Restorable (ofText text) := by
  have blank : form.blank.Restorable := ⟨nofun, nofun, nofun⟩
  refine (Form.decode_gives preserves_restorable blank text).mono ?_
  rintro record ⟨draft, ⟨timestamp, line, processId⟩, finished⟩
  obtain ⟨stamp, present, finished⟩ := bind_eq_ok.mp finished
  obtain ⟨level, -, finished⟩ := bind_eq_ok.mp finished
  obtain ⟨message, -, finished⟩ := bind_eq_ok.mp finished
  cases finished
  refine ⟨timestamp stamp (required_eq_ok present), ?_, ?_⟩
  · cases same : draft.line with
    | none => simp
    | some number => exact line number same
  · intro id same
    refine processId id ?_
    revert same
    cases draft.processId <;> simp

end LogSieve.Record
