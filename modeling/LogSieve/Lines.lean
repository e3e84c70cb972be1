import LogSieve.Text.Utf8
import LogSieve.Flow

/-! Records from lines of text. Every line that is not blank gives one item, a record or an error,
and no line affects another one. A record without a source or a line number gets those of its line.
-/

namespace LogSieve.Lines

open Text

def lineFeed : UInt8 := 10

def carriageReturn : UInt8 := 13

/-- A carriage return in front of a line feed belongs to the end of the line. The octets are given
last one first. -/
def dropReturn : Octets → Octets
  | [] => []
  | octet :: before => if octet = carriageReturn then before else octet :: before

/-- The lines of a text, where `before` holds what has been met of the current line, last octet
first. -/
def splitFrom (before : Octets) : Octets → List Octets
  | [] => if before.isEmpty then [] else [before.reverse]
  | octet :: rest =>
    if octet = lineFeed then (dropReturn before).reverse :: splitFrom [] rest
    else splitFrom (octet :: before) rest

def split (octets : Octets) : List Octets := splitFrom [] octets

theorem split_nil : split [] = [] := rfl

def identified (source : String) (line : Nat) (record : Record) : Record :=
  { record with
    source := if record.source.isEmpty then source else record.source
    line := if record.line = 0 then line else record.line }

def item? (source : String) (line : Nat) (octets : Octets) : Option Item :=
  match textOf? octets with
  | none => some (.error (.invalidRecord line "stream did not contain valid UTF-8"))
  | some text =>
    if (trim text.toList).isEmpty then none
    else
      match Record.ofText text with
      | .ok record => some (.record (identified source line record))
      | .error trouble => some (.error (.invalidRecord line trouble.message))

def itemsFrom (source : String) (line : Nat) : List Octets → List Item
  | [] => []
  | octets :: rest => (item? source line octets).toList ++ itemsFrom source (line + 1) rest

def items (source : String) (octets : Octets) : List Item := itemsFrom source 1 (split octets)

def flow (source : String) (octets : Octets) : Flow :=
  .ofEvents ((items source octets).map .give)

theorem items_nil (source : String) : items source [] = [] := rfl

end LogSieve.Lines
