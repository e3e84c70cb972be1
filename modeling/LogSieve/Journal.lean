import LogSieve.Text.Case
import LogSieve.Text.Pieces
import LogSieve.Text.Quoted
import LogSieve.Time.Writer

/-! The journal: notes about what happens, each with a severity and the topic it belongs to. Rules
say which notes are shown; of the rules whose topic a note's topic begins with, the longest counts.
-/

namespace LogSieve

open Text

inductive Severity where
  | error
  | warn
  | info
  | debug
  | trace
  deriving DecidableEq, Repr

namespace Severity

def all : List Severity := [error, warn, info, debug, trace]

def name : Severity → String
  | error => "error"
  | warn => "warn"
  | info => "info"
  | debug => "debug"
  | trace => "trace"

def rank : Severity → Nat
  | error => 1
  | warn => 2
  | info => 3
  | debug => 4
  | trace => 5

def ofCount : Nat → Severity
  | 0 => warn
  | 1 => info
  | 2 => debug
  | _ => trace

def label (severity : Severity) : String :=
  let capitals := asciiUpper severity.name.toList
  String.ofList (List.replicate (5 - capitals.length) ' ' ++ capitals)

end Severity

structure Note where
  severity : Severity
  topic : String
  message : String
  details : List (String × String)
  deriving DecidableEq, Repr

namespace Note

def line (note : Note) (now : Time.Instant) : String :=
  let details := note.details.map fun detail => s!" {detail.1}={detail.2}"
  s!"{now.write .six} {note.severity.label} {note.message}" ++ String.join details

end Note

inductive Report where
  | text (line : String)
  | note (note : Note)
  deriving DecidableEq, Repr

/-- Show notes whose topic begins like this up to a rank; rank 0 shows none. -/
structure JournalRule where
  topic : String
  rank : Nat
  deriving DecidableEq, Repr

namespace JournalRule

def rank? (text : List Char) : Option Nat :=
  let small := String.ofList (text.map Char.toLower)
  match text with
  | [digit] => if '0' ≤ digit ∧ digit ≤ '5' then some (digit.toNat - '0'.toNat) else none
  | _ =>
    if small = "off" then some 0
    else (Severity.all.find? fun severity => severity.name = small).map Severity.rank

def isTopicChar (c : Char) : Bool := c.isAlphanum || c = '_' || c = ':' || c = '-'

def ofText? (text : List Char) : Option JournalRule :=
  match rank? text with
  | some rank => some ⟨"", rank⟩
  | none =>
    let topic := text.takeWhile isTopicChar
    if topic.isEmpty then none
    else match text.dropWhile isTopicChar with
      | [] => some ⟨String.ofList topic, Severity.trace.rank⟩
      | ['='] => some ⟨String.ofList topic, Severity.trace.rank⟩
      | '=' :: level => (rank? level).map fun rank => ⟨String.ofList topic, rank⟩
      | _ => none

end JournalRule

namespace Journal

def rules? (text : String) : Option (List JournalRule) :=
  ((pieces ',' text.toList).filter fun piece => !piece.isEmpty).mapM JournalRule.ofText?

def rules (written : Option String) (count : Nat) : List JournalRule :=
  match written.bind rules? with
  | some [] => [⟨"", Severity.error.rank⟩]
  | some rules => rules
  | none => [⟨"log_filter", (Severity.ofCount count).rank⟩]

/-- The rank up to which notes of a topic are shown. The last of equal rules counts. -/
def rankFor (rules : List JournalRule) (topic : String) : Nat :=
  let fitting := rules.filter fun rule => rule.topic.toList.isPrefixOf topic.toList
  (fitting.foldl (fun (best : JournalRule) rule =>
    if best.topic.length ≤ rule.topic.length then rule else best) ⟨"", 0⟩).rank

def shows (rules : List JournalRule) (note : Note) : Bool :=
  note.severity.rank ≤ rankFor rules note.topic

def line? (rules : List JournalRule) (now : Time.Instant) : Report → Option String
  | .text line => some line
  | .note note => if shows rules note then some (note.line now) else none

end Journal

end LogSieve
