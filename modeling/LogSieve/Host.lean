import LogSieve.Files.Fault
import LogSieve.Journal
import LogSieve.Text.Utf8

/-! What is asked of the machine that a program runs on: its files, its standard input and somebody
who takes reports. -/

namespace LogSieve

open Files Text

/-- A machine; files are named by paths. -/
class Host (m : Type → Type) where
  read : String → m (Except Fault Octets)
  write : String → Octets → m (Except Fault Unit)
  rename : String → String → m (Except Fault Unit)
  remove : String → m (Except Fault Unit)
  makeDirectories : String → m (Except Fault Unit)
  names : String → m (Except Fault (List String))
  isFile : String → m Bool
  input : m Octets
  report : Report → m Unit

namespace Host

variable {m : Type → Type} [Monad m] [Host m]

def note (severity : Severity) (topic message : String) (details : List (String × String)) :
    m Unit :=
  report (.note ⟨severity, topic, message, details⟩)

def decoded (content : Octets) : Except Fault String :=
  match textOf? content with
  | some text => .ok text
  | none => .error .noText

def readText (path : String) : m (Except Fault String) := do
  return (← read path).bind decoded

def writeText (path text : String) : m (Except Fault Unit) := write path (octets text)

end Host

end LogSieve
