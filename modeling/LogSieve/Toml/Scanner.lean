import LogSieve.Text.Runs
import LogSieve.Toml.Basic

/-! The pieces of a TOML document: blanks and comments, strings in their four forms, and keys. -/

namespace LogSieve.Toml

open Text

abbrev Step (α : Type) := List Char → Option (α × List Char)

def isGap (c : Char) : Bool := c = ' ' || c = '\t'

def isPlain (c : Char) : Bool := c = '\t' || (0x20 ≤ c.toNat && c.toNat ≠ 0x7F)

def skipGap (text : List Char) : List Char := text.dropWhile isGap

def lineBreak? : List Char → Option (List Char)
  | '\n' :: rest => some rest
  | '\r' :: '\n' :: rest => some rest
  | _ => none

def lineEnd (text : List Char) : Option (List Char) :=
  let text := skipGap text
  let text := match text with
    | '#' :: rest => rest.dropWhile isPlain
    | rest => rest
  match text with
  | [] => some []
  | rest => lineBreak? rest

def skipLines (comment : Bool) : List Char → List Char
  | [] => []
  | c :: rest =>
    if comment && isPlain c then skipLines true rest
    else if isGap c || c = '\n' then skipLines false rest
    else if c = '#' then skipLines true rest
    else match c, rest with
      | '\r', '\n' :: rest => skipLines false rest
      | _, _ => c :: rest

def hexValue? (digits : List Char) : Option Nat :=
  digits.foldlM (fun value c => do return value * 16 + (← hexDigit? c)) 0

def scalar? (code : Nat) : Option Char := if code.isValidChar then some (Char.ofNat code) else none

def escape : Step Char
  | 'b' :: rest => some ('\x08', rest)
  | 't' :: rest => some ('\t', rest)
  | 'n' :: rest => some ('\n', rest)
  | 'f' :: rest => some ('\x0c', rest)
  | 'r' :: rest => some ('\r', rest)
  | '"' :: rest => some ('"', rest)
  | '\\' :: rest => some ('\\', rest)
  | 'u' :: a :: b :: c :: d :: rest => do
    return (← scalar? (← hexValue? [a, b, c, d]), rest)
  | 'U' :: a :: b :: c :: d :: e :: f :: g :: h :: rest => do
    return (← scalar? (← hexValue? [a, b, c, d, e, f, g, h]), rest)
  | _ => none

def quotedChars : Nat → Step (List Char)
  | 0, _ => none
  | _ + 1, '"' :: rest => some ([], rest)
  | steps + 1, '\\' :: rest => do
    let (c, rest) ← escape rest
    let (chars, rest) ← quotedChars steps rest
    return (c :: chars, rest)
  | steps + 1, c :: rest =>
    if isPlain c then do
      let (chars, rest) ← quotedChars steps rest
      return (c :: chars, rest)
    else none
  | _, [] => none

def literalChars : Step (List Char)
  | [] => none
  | c :: rest =>
    if c = '\'' then some ([], rest)
    else if isPlain c then do
      let (chars, rest) ← literalChars rest
      return (c :: chars, rest)
    else none

def continued? (text : List Char) : Option (List Char) :=
  (lineBreak? (skipGap text)).map behind
where
  behind : List Char → List Char
    | [] => []
    | c :: rest =>
      if isGap c || c = '\n' then behind rest
      else match c, rest with
        | '\r', '\n' :: rest => behind rest
        | _, _ => c :: rest

/-- The rest of a text on several lines. Three quotes end it, and up to two more in front of them
belong to it. -/
def longChars (quote : Char) : Nat → Step (List Char)
  | 0, _ => none
  | _, [] => none
  | steps + 1, c :: rest =>
    let more (first : List Char) (rest : List Char) : Option (List Char × List Char) := do
      let (chars, rest) ← longChars quote steps rest
      return (first ++ chars, rest)
    if c = quote then
      let run := (c :: rest).takeWhile (· = quote)
      if run.length < 3 then more run ((c :: rest).drop run.length)
      else
        let inside := min (run.length - 3) 2
        some (run.take inside, (c :: rest).drop (inside + 3))
    else if c = '\\' && quote = '"' then
      match continued? rest with
      | some rest => more [] rest
      | none => do
        let (c, rest) ← escape rest
        more [c] rest
    else if isPlain c then more [c] rest
    else do more ['\n'] (← lineBreak? (c :: rest))

def longText (quote : Char) (text : List Char) : Option (String × List Char) := do
  let (chars, rest) ← longChars quote (text.length + 1) ((lineBreak? text).getD text)
  return (String.ofList chars, rest)

def shortText : Step String
  | '"' :: rest => do
    let (chars, rest) ← quotedChars (rest.length + 1) rest
    return (String.ofList chars, rest)
  | '\'' :: rest => do
    let (chars, rest) ← literalChars rest
    return (String.ofList chars, rest)
  | _ => none

def anyText : Step String
  | '"' :: '"' :: '"' :: rest => longText '"' rest
  | '\'' :: '\'' :: '\'' :: rest => longText '\'' rest
  | rest => shortText rest

def isKeyChar (c : Char) : Bool := c.isAlphanum || c = '-' || c = '_'

def keyPart (text : List Char) : Option (String × List Char) :=
  match shortText text with
  | some found => some found
  | none =>
    let word := text.takeWhile isKeyChar
    if word.isEmpty then none else some (String.ofList word, text.dropWhile isKeyChar)

def nestingLimit : Nat := 80

def keyParts : Nat → Step (List String)
  | 0, _ => none
  | parts + 1, front => do
    let (part, rest) ← keyPart (skipGap front)
    match skipGap rest with
    | '.' :: rest => do
      let (others, rest) ← keyParts parts rest
      return (part :: others, rest)
    | rest => return ([part], rest)

def key : Step (List String) := keyParts (nestingLimit - 1)

end LogSieve.Toml
