import LogSieve.Text.Blank
import LogSieve.Text.Case
import LogSieve.Text.Quoted
import LogSieve.Text.Utf8

/-! Names of saved filters. A name becomes the name of a file, so it has to be one that every common
file system takes, also with the longest extension behind it. -/

namespace LogSieve.FilterName

open Text

inductive Fault where
  | empty
  | tooLong
  | illegal (c : Char)
  | relative
  | badEnd
  | reserved (name : String)
  deriving DecidableEq, Repr

/-- Octets that a file name may have, and those of the extension of a temporary document. -/
def octetLimit : Nat := 255 - octetCount ".json.tmp".toList

def Fault.message : Fault → String
  | empty => "name must not be empty"
  | tooLong => s!"name must be at most {octetLimit} bytes"
  | illegal c => "name contains illegal character " ++ quotedChar c
  | relative => "name must not be a relative path component"
  | badEnd => "name must not end with a dot or a space"
  | reserved name => s!"'{name}' is a reserved device name"

def isControl (c : Char) : Bool := c.toNat < 0x20 || (0x7F ≤ c.toNat && c.toNat < 0xA0)

def isIllegal (c : Char) : Bool :=
  isControl c || ['<', '>', ':', '"', '/', '\\', '|', '?', '*'].contains c

/-- Names that mean a device whatever extension follows, in any letter case. -/
def isReserved (name : List Char) : Bool :=
  match asciiUpper (name.takeWhile (· != '.')) with
  | ['C', 'O', 'N'] | ['P', 'R', 'N'] | ['A', 'U', 'X'] | ['N', 'U', 'L'] => true
  | ['C', 'O', 'M', digit] | ['L', 'P', 'T', digit] => '1' ≤ digit && digit ≤ '9'
  | _ => false

def fault? (name : String) : Option Fault :=
  let chars := name.toList
  if (trim chars).isEmpty then some .empty
  else if octetLimit < octetCount chars then some .tooLong
  else match chars.find? isIllegal with
    | some c => some (.illegal c)
    | none =>
      if chars = ['.'] || chars = ['.', '.'] then some .relative
      else if chars.getLast? = some '.' || chars.getLast? = some ' ' then some .badEnd
      else if isReserved chars then some (.reserved name)
      else none

end LogSieve.FilterName
