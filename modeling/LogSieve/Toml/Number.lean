import LogSieve.Toml.Scanner

/-! Numbers, dates and times of a TOML document. -/

namespace LogSieve.Toml

def digits (isDigit : Char → Bool) : Step (List Char)
  | [] => none
  | c :: rest =>
    if isDigit c then
      match rest with
      | '_' :: rest => do
        let (others, rest) ← digits isDigit rest
        return (c :: others, rest)
      | rest =>
        match digits isDigit rest with
        | some (others, rest) => some (c :: others, rest)
        | none => some ([c], rest)
    else none

def sign : List Char → Option Char × List Char
  | '+' :: rest => (some '+', rest)
  | '-' :: rest => (some '-', rest)
  | rest => (none, rest)

def whole : Step (List Char)
  | '0' :: rest => some (['0'], rest)
  | rest => digits Char.isDigit rest

def value (base : Nat) (digits : List Char) : Nat :=
  digits.foldl (fun value c => value * base + (Text.hexDigit? c).getD 0) 0

def inRange (n : Int) : Option Int :=
  if -0x8000000000000000 ≤ n ∧ n < 0x8000000000000000 then some n else none

def based (base : Nat) (isDigit : Char → Bool) (text : List Char) : Option (Toml × List Char) := do
  let (found, rest) ← digits isDigit text
  return (.integer (← inRange (value base found)), rest)

def fraction (text : List Char) : Option (List Char × List Char) :=
  match text with
  | '.' :: rest => digits Char.isDigit rest
  | rest => some ([], rest)

def exponent (text : List Char) : Option (Option Int × List Char) :=
  match text with
  | 'e' :: rest | 'E' :: rest => do
    let (minus, rest) := sign rest
    let (found, rest) ← digits Char.isDigit rest
    let power : Int := value 10 found
    return (some (if minus = some '-' then -power else power), rest)
  | rest => some (none, rest)

/-- Whether `coefficient * 10 ^ power` is nearer to infinity than to the largest double. -/
def isHuge (coefficient : Nat) (power : Int) : Bool :=
  let magnitude : Int := power + (Nat.toDigits 10 coefficient).length
  let bound := 0x3FFFFFFFFFFFFF * Nat.pow 2 970
  if coefficient = 0 || magnitude < 300 then false
  else if 320 < magnitude then true
  else if 0 ≤ power then bound ≤ coefficient * Nat.pow 10 power.toNat
  else bound * Nat.pow 10 power.natAbs ≤ coefficient

def plainNumber (text : List Char) : Option (Toml × List Char) := do
  let (minus, start) := sign text
  let (front, rest) ← whole start
  let (back, rest) ← fraction rest
  let (power, rest) ← exponent rest
  if back.isEmpty && power.isNone then
    let n : Int := value 10 front
    return (.integer (← inRange (if minus = some '-' then -n else n)), rest)
  else
    let huge := isHuge (value 10 (front ++ back)) (power.getD 0 - back.length)
    if minus ≠ some '-' && huge then none
    else return (.decimal (String.ofList (text.take (text.length - rest.length))), rest)

def special (text : List Char) : Option (Toml × List Char) :=
  match (sign text).2 with
  | 'i' :: 'n' :: 'f' :: rest => some (.decimal "inf", rest)
  | 'n' :: 'a' :: 'n' :: rest => some (.decimal "nan", rest)
  | _ => none

def number (text : List Char) : Option (Toml × List Char) :=
  match text with
  | '0' :: 'x' :: rest => based 16 (fun c => (Text.hexDigit? c).isSome) rest
  | '0' :: 'o' :: rest => based 8 (fun c => '0' ≤ c && c ≤ '7') rest
  | '0' :: 'b' :: rest => based 2 (fun c => c = '0' || c = '1') rest
  | rest => (special rest).or (plainNumber rest)

/-! Dates and times -/

def fixed (width least limit : Nat) (text : List Char) : Option (Nat × List Char) :=
  let front := text.take width
  if front.length = width && front.all Char.isDigit then
    let found := value 10 front
    if least ≤ found ∧ found ≤ limit then some (found, text.drop width) else none
  else none

def mark (c : Char) : List Char → Option (List Char)
  | [] => none
  | first :: rest => if first = c then some rest else none

def daysIn (year month : Nat) : Nat :=
  if month = 2 then
    if year % 4 = 0 ∧ (year % 100 ≠ 0 ∨ year % 400 = 0) then 29 else 28
  else if [4, 6, 9, 11].contains month then 30 else 31

def date (text : List Char) : Option (List Char) := do
  let (year, rest) ← fixed 4 0 9999 text
  let (month, rest) ← fixed 2 1 12 (← mark '-' rest)
  let (_, rest) ← fixed 2 1 (daysIn year month) (← mark '-' rest)
  return rest

def time (text : List Char) : Option (List Char) := do
  let (_, rest) ← fixed 2 0 23 text
  let (_, rest) ← fixed 2 0 59 (← mark ':' rest)
  let (_, rest) ← fixed 2 0 60 (← mark ':' rest)
  match rest with
  | '.' :: c :: rest => return if c.isDigit then rest.dropWhile Char.isDigit else '.' :: c :: rest
  | rest => return rest

def offset (text : List Char) : Option (List Char) :=
  match text with
  | 'Z' :: rest | 'z' :: rest => some rest
  | '+' :: rest | '-' :: rest => do
    let (_, rest) ← fixed 2 0 23 rest
    let (_, rest) ← fixed 2 0 59 (← mark ':' rest)
    return rest
  | rest => some rest

def dateTime (text : List Char) : Option (Toml × List Char) :=
  let written (rest : List Char) : Toml × List Char :=
    (.moment (String.ofList (text.take (text.length - rest.length))), rest)
  match date text with
  | some rest =>
    match rest with
    | c :: behind =>
      if c = 'T' || c = 't' || c = ' ' then
        match time behind with
        | some rest => (offset rest).map written
        | none => some (written rest)
      else some (written rest)
    | [] => some (written [])
  | none => (time text).map written

end LogSieve.Toml
