import LogSieve.Text.Utf8
import LogSieve.Text.Quoted
import LogSieve.Decimal.Layout

/-! What can be wrong with a JSON text, and where. A fault names the text that was still unread, and
its place is the line and the octet column where that text begins. -/

namespace LogSieve.Json

open Text

inductive Found where
  | null
  | bool (value : Bool)
  | integer (value : Int)
  | double (value : Float)
  | text (value : String)
  | sequence
  | map

namespace Found

def describe : Found → String
  | null => "null"
  | bool value => s!"boolean `{value}`"
  | integer value => s!"integer `{value}`"
  | double value => s!"floating point `{Decimal.Layout.document.float value}`"
  | text value => s!"string {quoted value}"
  | sequence => "sequence"
  | map => "map"

end Found

inductive Cause where
  | endInList
  | endInObject
  | endInString
  | endInValue
  | wantsColon
  | wantsListMark
  | wantsObjectMark
  | wantsWord
  | wantsValue
  | badEscape
  | badNumber
  | numberTooLarge
  | controlInString
  | keyNotString
  | loneSurrogate
  | commaAtEnd
  | textAfterEnd
  | halfSurrogate
  | tooDeep
  | mistyped (found : Found) (wanted : String)
  | badValue (found : Found) (wanted : String)
  | missingField (name : String)
  | repeatedField (name : String)
  | tooShort (count : Nat) (wanted : String)
  | refused (reason : String)

namespace Cause

def message : Cause → String
  | endInList => "EOF while parsing a list"
  | endInObject => "EOF while parsing an object"
  | endInString => "EOF while parsing a string"
  | endInValue => "EOF while parsing a value"
  | wantsColon => "expected `:`"
  | wantsListMark => "expected `,` or `]`"
  | wantsObjectMark => "expected `,` or `\x7d`"
  | wantsWord => "expected ident"
  | wantsValue => "expected value"
  | badEscape => "invalid escape"
  | badNumber => "invalid number"
  | numberTooLarge => "number out of range"
  | controlInString => "control character (\\u0000-\\u001F) found while parsing a string"
  | keyNotString => "key must be a string"
  | loneSurrogate => "lone leading surrogate in hex escape"
  | commaAtEnd => "trailing comma"
  | textAfterEnd => "trailing characters"
  | halfSurrogate => "unexpected end of hex escape"
  | tooDeep => "recursion limit exceeded"
  | mistyped found wanted => s!"invalid type: {found.describe}, expected {wanted}"
  | badValue found wanted => s!"invalid value: {found.describe}, expected {wanted}"
  | missingField name => s!"missing field `{name}`"
  | repeatedField name => s!"duplicate field `{name}`"
  | tooShort count wanted => s!"invalid length {count}, expected {wanted}"
  | refused reason => reason

end Cause

/-- A cause, the text still unread, and how many octets of it belong to the fault. -/
structure Fault where
  cause : Cause
  unread : List Char
  ahead : Nat

namespace Fault

def behind (cause : Cause) (unread : List Char) : Fault := ⟨cause, unread, 0⟩

def next (cause : Cause) (unread : List Char) : Fault :=
  ⟨cause, unread, if unread.isEmpty then 0 else 1⟩

end Fault

structure Trouble where
  cause : Cause
  line : Nat
  column : Nat

/-- Line and column after the first `count` octets; lines count from one, columns from zero. -/
def place : List Char → Nat → Nat → Nat → Nat × Nat
  | [], _, line, column => (line, column)
  | c :: text, count, line, column =>
    if count < c.utf8Size then (line, column + count)
    else if c = '\n' then place text (count - 1) (line + 1) 0
    else place text (count - c.utf8Size) line (column + c.utf8Size)

namespace Fault

def locate (fault : Fault) (text : List Char) : Trouble :=
  let (line, column) :=
    place text (octetCount text - octetCount fault.unread + fault.ahead) 1 0
  ⟨fault.cause, line, column⟩

end Fault

namespace Trouble

def message (trouble : Trouble) : String :=
  s!"{trouble.cause.message} at line {trouble.line} column {trouble.column}"

end Trouble

end LogSieve.Json
