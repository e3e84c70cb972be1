import LogSieve.Json.Number

/-! The pieces of a JSON text: blanks between tokens, the three words, and strings. A string is read
by a machine that takes one character at a time, so it ends where the text does at the latest. -/

namespace LogSieve.Json

open Text

def isGap (c : Char) : Bool := c = ' ' || c = '\n' || c = '\t' || c = '\r'

def skipGap (text : List Char) : List Char := text.dropWhile isGap

def word : List Char → List Char → Except Fault (List Char)
  | [], text => .ok text
  | _ :: _, [] => .error (.behind .endInValue [])
  | letter :: letters, c :: text =>
    if c = letter then word letters text else .error (.next .wantsWord (c :: text))

inductive Mode where
  | plain
  | escape
  | hex (count value : Nat) (first : Option Nat)
  | secondSlash (first : Nat)
  | secondLetter (first : Nat)

def isHighHalf (n : Nat) : Bool := 0xD800 ≤ n && n ≤ 0xDBFF

def isLowHalf (n : Nat) : Bool := 0xDC00 ≤ n && n ≤ 0xDFFF

def joinHalves (high low : Nat) : Char :=
  Char.ofNat ((high - 0xD800) * 0x400 + (low - 0xDC00) + 0x10000)

def simpleEscape? : Char → Option Char
  | '"' => some '"'
  | '\\' => some '\\'
  | '/' => some '/'
  | 'b' => some '\x08'
  | 'f' => some '\x0c'
  | 'n' => some '\n'
  | 'r' => some '\r'
  | 't' => some '\t'
  | _ => none

def closeHex (strict : Bool) (value : Nat) (first : Option Nat) (done rest : List Char) :
    Except Fault (Mode × List Char) :=
  if !strict then .ok (.plain, done)
  else match first with
    | none =>
      if isLowHalf value then .error (.behind .loneSurrogate rest)
      else if isHighHalf value then .ok (.secondSlash value, done)
      else .ok (.plain, Char.ofNat value :: done)
    | some high =>
      if isLowHalf value then .ok (.plain, joinHalves high value :: done)
      else .error (.behind .loneSurrogate rest)

/-- A string behind its opening quote. A string that is only skipped may hold half a pair. -/
def stringBody (strict : Bool) :
    Mode → List Char → List Char → Except Fault (List Char × List Char)
  | _, _, [] => .error (.behind .endInString [])
  | .plain, done, c :: rest =>
    if c = '"' then .ok (done.reverse, rest)
    else if c = '\\' then stringBody strict .escape done rest
    else if c.toNat < 0x20 then
      .error (.behind .controlInString (if strict then rest else c :: rest))
    else stringBody strict .plain (c :: done) rest
  | .escape, done, c :: rest =>
    if c = 'u' then stringBody strict (.hex 0 0 none) done rest
    else match simpleEscape? c with
      | some d => stringBody strict .plain (d :: done) rest
      | none => .error (.next .badEscape (c :: rest))
  | .hex count value first, done, c :: rest =>
    match hexDigit? c with
    | some d =>
      if count < 3 then stringBody strict (.hex (count + 1) (value * 16 + d) first) done rest
      else match closeHex strict (value * 16 + d) first done rest with
        | .ok (mode, done) => stringBody strict mode done rest
        | .error fault => .error fault
    | none =>
      if octetCount ((c :: rest).take (4 - count)) < 4 - count then .error (.behind .endInString [])
      else .error ⟨.badEscape, c :: rest, 4 - count⟩
  | .secondSlash first, done, c :: rest =>
    if c = '\\' then stringBody strict (.secondLetter first) done rest
    else .error (.next .halfSurrogate (c :: rest))
  | .secondLetter first, done, c :: rest =>
    if c = 'u' then stringBody strict (.hex 0 0 (some first)) done rest
    else .error (.next .halfSurrogate (c :: rest))

def quotedText (text : List Char) : Except Fault (String × List Char) := do
  let (chars, rest) ← stringBody true .plain [] text
  return (String.ofList chars, rest)

end LogSieve.Json
