import LogSieve.Json.Basic
import LogSieve.Decimal.Layout

/-! Writing JSON values, on one line or indented by two blanks a level. In a string only the quote,
the backslash and the control characters are escaped, so the text of a value holds no line break on
one line. Fields are written in the order in which the object holds them. -/

namespace LogSieve.Json

def hexChar (n : Nat) : Char := (Nat.digitChar n)

def escapeChar (c : Char) : List Char :=
  if c = '"' then ['\\', '"']
  else if c = '\\' then ['\\', '\\']
  else if c = '\x08' then ['\\', 'b']
  else if c = '\x0c' then ['\\', 'f']
  else if c = '\n' then ['\\', 'n']
  else if c = '\r' then ['\\', 'r']
  else if c = '\t' then ['\\', 't']
  else if c.toNat < 0x20 then
    ['\\', 'u', '0', '0', hexChar (c.toNat / 16), hexChar (c.toNat % 16)]
  else [c]

def writeChars (chars : List Char) : List Char := '"' :: chars.flatMap escapeChar ++ ['"']

def writeString (text : String) : List Char := writeChars text.toList

def writeInteger (n : Int) : List Char :=
  if n < 0 then '-' :: Nat.toDigits 10 n.natAbs else Nat.toDigits 10 n.natAbs

def writeBool (value : Bool) : List Char := if value then "true".toList else "false".toList

mutual

def write : Json → List Char
  | null => "null".toList
  | bool value => writeBool value
  | integer value => writeInteger value
  | double value => (Decimal.Layout.document.float value).toList
  | string value => writeString value
  | array [] => ['[', ']']
  | array (item :: rest) => '[' :: write item ++ writeItems rest ++ [']']
  | object [] => ['{', '}']
  | object ((name, value) :: rest) =>
    '{' :: writeString name ++ ':' :: write value ++ writeFields rest ++ ['}']

def writeItems : List Json → List Char
  | [] => []
  | item :: rest => ',' :: write item ++ writeItems rest

def writeFields : List (String × Json) → List Char
  | [] => []
  | (name, value) :: rest =>
    ',' :: writeString name ++ ':' :: write value ++ writeFields rest

end

def breakLine (level : Nat) : List Char := '\n' :: List.replicate (2 * level) ' '

mutual

/-- A value with each item and each field on a line of its own; empty brackets stay together. -/
def writeIndented (level : Nat) : Json → List Char
  | null => "null".toList
  | bool value => writeBool value
  | integer value => writeInteger value
  | double value => (Decimal.Layout.document.float value).toList
  | string value => writeString value
  | array [] => ['[', ']']
  | array (item :: rest) =>
    '[' :: breakLine (level + 1) ++ writeIndented (level + 1) item ++
      writeIndentedItems (level + 1) rest ++ breakLine level ++ [']']
  | object [] => ['{', '}']
  | object ((name, value) :: rest) =>
    '{' :: breakLine (level + 1) ++ writeString name ++ ':' :: ' ' ::
      writeIndented (level + 1) value ++ writeIndentedFields (level + 1) rest ++
        breakLine level ++ ['}']

def writeIndentedItems (level : Nat) : List Json → List Char
  | [] => []
  | item :: rest =>
    ',' :: breakLine level ++ writeIndented level item ++ writeIndentedItems level rest

def writeIndentedFields (level : Nat) : List (String × Json) → List Char
  | [] => []
  | (name, value) :: rest =>
    ',' :: breakLine level ++ writeString name ++ ':' :: ' ' :: writeIndented level value ++
      writeIndentedFields level rest

end

def compact (value : Json) : String := String.ofList (write value)

def pretty (value : Json) : String := String.ofList (writeIndented 0 value)

end LogSieve.Json
