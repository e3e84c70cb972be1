import LogSieve.Text.Blank
import LogSieve.Text.Case

/-! Severities of log records, from the least to the most severe. -/

namespace LogSieve

open Text

inductive Level where
  | trace
  | debug
  | info
  | warn
  | error
  | fatal
  deriving DecidableEq, Repr

namespace Level

def all : List Level := [trace, debug, info, warn, error, fatal]

def name : Level → String
  | trace => "trace"
  | debug => "debug"
  | info => "info"
  | warn => "warn"
  | error => "error"
  | fatal => "fatal"

def rank : Level → Nat
  | trace => 0
  | debug => 1
  | info => 2
  | warn => 3
  | error => 4
  | fatal => 5

def before (a b : Level) : Bool := a.rank < b.rank

/-- Levels by their name or a customary other one, in any letter case and with blanks around it. -/
def ofText? (text : String) : Option Level :=
  match lowercase (trimmed text) with
  | "trace" | "verbose" => some trace
  | "debug" | "dbg" => some debug
  | "info" | "information" | "notice" => some info
  | "warn" | "warning" => some warn
  | "error" | "err" => some error
  | "fatal" | "critical" | "crit" | "panic" => some fatal
  | _ => none

def parse (text : String) : Except String Level :=
  match ofText? text with
  | some level => .ok level
  | none => .error s!"Unknown log level '{text}'"

def notAbove (level : Level) : List Level := all.filter fun other => other.rank ≤ level.rank

end Level

end LogSieve
