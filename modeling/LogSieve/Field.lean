import LogSieve.Text.Blank
import LogSieve.Text.Case
import LogSieve.FilterError

/-! The fields of a record that criteria can name. -/

namespace LogSieve

open Text

inductive Field where
  | timestamp
  | level
  | message
  | node
  | processId
  | username
  deriving DecidableEq, Repr

namespace Field

def all : List Field := [timestamp, level, message, node, processId, username]

def name : Field → String
  | timestamp => "Timestamp"
  | level => "Level"
  | message => "Message"
  | node => "Node"
  | processId => "ProcessId"
  | username => "Username"

/-- Fields by their name or a short one, in any letter case and with blanks around it. -/
def ofText? (text : String) : Option Field :=
  match lowercase (trimmed text) with
  | "timestamp" | "time" | "ts" => some timestamp
  | "level" | "lvl" => some level
  | "message" | "msg" => some message
  | "node" | "host" => some node
  | "processid" | "process_id" | "pid" => some processId
  | "username" | "user" => some username
  | _ => none

def parse (text : String) : Except FilterError Field :=
  match ofText? text with
  | some field => .ok field
  | none => .error (.unsupportedField text)

inductive Kind where
  | timestamp
  | level
  | text
  | integer
  deriving DecidableEq, Repr

def Kind.name : Kind → String
  | timestamp => "timestamp"
  | level => "level"
  | text => "text"
  | integer => "integer"

def kind : Field → Kind
  | timestamp => .timestamp
  | level => .level
  | message | node | username => .text
  | processId => .integer

def describe : Field → String
  | timestamp => "When the record was written"
  | level => "Severity (trace, debug, info, warn, error, fatal)"
  | message => "Free-form message text"
  | node => "Host or broker node that emitted the record"
  | processId => "Numeric id of the emitting process"
  | username => "User associated with the record"

end Field

end LogSieve
