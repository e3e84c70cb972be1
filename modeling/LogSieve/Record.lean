import LogSieve.Level
import LogSieve.Json.Decoder
import LogSieve.Json.Writer
import LogSieve.Time.Reader
import LogSieve.Time.Writer

/-! Log records. The level is kept as it was written; the severity is what it means. -/

namespace LogSieve

open Time

/-- Two records are the same record when they come from the same line of the same source. -/
structure RecordKey where
  source : String
  line : Nat
  deriving DecidableEq, Repr

def RecordKey.text (key : RecordKey) : String := s!"{key.source}:{key.line}"

structure Record where
  source : String
  line : Nat
  timestamp : Stamp
  level : String
  message : String
  node : String
  processId : Option Nat
  username : Option String
  deriving DecidableEq, Repr

namespace Record

def key (record : Record) : RecordKey := ⟨record.source, record.line⟩

def severity (record : Record) : Option Level := Level.ofText? record.level

def toJson (record : Record) : Json :=
  .object ([("source", .string record.source), ("lineNumber", .integer record.line),
    ("timestamp", .string (record.timestamp.write .needed)), ("level", .string record.level),
    ("message", .string record.message), ("node", .string record.node)] ++
    (record.processId.map fun id => ("processId", Json.integer id)).toList ++
    (record.username.map fun name => ("username", Json.string name)).toList)

structure Draft where
  source : Option String
  line : Option Nat
  timestamp : Option Stamp
  level : Option String
  message : Option String
  node : Option String
  processId : Option (Option Nat)
  username : Option (Option String)

/-- Instants in documents are read in the relaxed form. -/
def anyStamp : Json.Step Stamp :=
  Json.parsed "an RFC 3339 formatted date and time string" Time.stamp

def form : Json.Form Draft Record where
  title := "struct LogRecord"
  members := [
    { name := "source", optional := true, filled := fun draft => draft.source.isSome,
      fill := fun _ draft text => do
        let (source, rest) ← Json.anyText text
        return ({ draft with source := some source }, rest) },
    { name := "lineNumber", optional := true, filled := fun draft => draft.line.isSome,
      fill := fun _ draft text => do
        let (line, rest) ← Json.natural "usize" 0x10000000000000000 text
        return ({ draft with line := some line }, rest) },
    { name := "timestamp", optional := false, filled := fun draft => draft.timestamp.isSome,
      fill := fun _ draft text => do
        let (timestamp, rest) ← anyStamp text
        return ({ draft with timestamp := some timestamp }, rest) },
    { name := "level", optional := false, filled := fun draft => draft.level.isSome,
      fill := fun _ draft text => do
        let (level, rest) ← Json.anyText text
        return ({ draft with level := some level }, rest) },
    { name := "message", optional := false, filled := fun draft => draft.message.isSome,
      fill := fun _ draft text => do
        let (message, rest) ← Json.anyText text
        return ({ draft with message := some message }, rest) },
    { name := "node", optional := true, filled := fun draft => draft.node.isSome,
      fill := fun _ draft text => do
        let (node, rest) ← Json.anyText text
        return ({ draft with node := some node }, rest) },
    { name := "processId", optional := true, filled := fun draft => draft.processId.isSome,
      fill := fun _ draft text => do
        let (processId, rest) ← Json.orNull (Json.natural "u32" 0x100000000) text
        return ({ draft with processId := some processId }, rest) },
    { name := "username", optional := true, filled := fun draft => draft.username.isSome,
      fill := fun _ draft text => do
        let (username, rest) ← Json.orNull Json.anyText text
        return ({ draft with username := some username }, rest) }]
  blank := ⟨none, none, none, none, none, none, none, none⟩
  finish draft := do
    let timestamp ← Json.required "timestamp" draft.timestamp
    let level ← Json.required "level" draft.level
    let message ← Json.required "message" draft.message
    return {
      source := draft.source.getD ""
      line := draft.line.getD 0
      timestamp, level, message
      node := draft.node.getD ""
      processId := draft.processId.getD none
      username := draft.username.getD none }

def ofText (text : String) : Except Json.Trouble Record := form.decode text

/-- The line that shows a record. Line breaks in the message are written out; the number of the line
takes six columns at least. -/
def shown (record : Record) : String :=
  let line := toString record.line
  let node := if record.node.isEmpty then "-" else record.node
  let message := record.message.toList.flatMap fun c => if c = '\n' then ['\\', 'n'] else [c]
  let gap := String.ofList (List.replicate (6 - line.length) ' ')
  s!"{record.source}:{line}{gap} {record.timestamp.write .three} [{record.level}] {node} | " ++
    String.ofList message

end Record

end LogSieve
