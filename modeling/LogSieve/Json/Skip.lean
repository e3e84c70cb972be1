import LogSieve.Json.Reader

/-! Passing over a value that nobody asked for. Its brackets may stand as deep as they like and its
numbers may be as large as they like, but its form is checked. -/

namespace LogSieve.Json

inductive Bracket where
  | list
  | map
  deriving DecidableEq

def skipExponent (text : List Char) : Except Fault (List Char) :=
  let text := match text with
    | '+' :: rest => rest
    | '-' :: rest => rest
    | rest => rest
  match text with
  | [] => .error (.behind .badNumber [])
  | c :: rest =>
    if c.isDigit then .ok (rest.dropWhile Char.isDigit)
    else .error (.next .badNumber (c :: rest))

def skipExponentOrEnd : List Char → Except Fault (List Char)
  | 'e' :: rest => skipExponent rest
  | 'E' :: rest => skipExponent rest
  | rest => .ok rest

def skipNumberTail : List Char → Except Fault (List Char)
  | '.' :: rest =>
    if startsWithDigit rest then skipExponentOrEnd (rest.dropWhile Char.isDigit)
    else .error (.next .badNumber rest)
  | rest => skipExponentOrEnd rest

def skipNumber : List Char → Except Fault (List Char)
  | [] => .error (.behind .badNumber [])
  | '0' :: rest =>
    if startsWithDigit rest then .error (.next .badNumber rest) else skipNumberTail rest
  | c :: rest =>
    if c.isDigit then skipNumberTail (rest.dropWhile Char.isDigit)
    else .error (.next .badNumber (c :: rest))

def skipString (text : List Char) : Except Fault (List Char) :=
  return (← stringBody false .plain [] text).2

def skipToken (text : List Char) : Except Fault (Option Bracket × List Char) :=
  match skipGap text with
  | [] => .error (.next .endInValue [])
  | 'n' :: rest => return (none, ← word ['u', 'l', 'l'] rest)
  | 't' :: rest => return (none, ← word ['r', 'u', 'e'] rest)
  | 'f' :: rest => return (none, ← word ['a', 'l', 's', 'e'] rest)
  | '-' :: rest => return (none, ← skipNumber rest)
  | '"' :: rest => return (none, ← skipString rest)
  | '[' :: rest => return (some .list, rest)
  | '{' :: rest => return (some .map, rest)
  | c :: rest =>
    if c.isDigit then return (none, ← skipNumber (c :: rest))
    else .error (.next .wantsValue (c :: rest))

def skipName (text : List Char) : Except Fault (List Char) :=
  match skipGap text with
  | [] => .error (.next .endInObject [])
  | '"' :: rest => do colon (← skipString rest)
  | rest => .error (.next .keyNotString rest)

/-- After an item: brackets that close, then a comma or the end. The answer is the brackets still
open, none when the value is over. -/
def skipClosers : Nat → Bool → Bracket → List Bracket → List Char →
    Except Fault (Option (Bracket × List Bracket) × List Char)
  | 0, _, _, _, text => .error (.behind .wantsValue text)
  | steps + 1, comma, inner, outer, text =>
    match skipGap text, inner with
    | [], .list => .error (.next .endInList [])
    | [], .map => .error (.next .endInObject [])
    | c :: rest, _ =>
      if c = ',' && comma then .ok (some (inner, outer), rest)
      else if (c = ']' && inner = .list) || (c = '}' && inner = .map) then
        match outer with
        | [] => .ok (none, rest)
        | enclosing :: outer => skipClosers steps true enclosing outer rest
      else if !comma then .ok (some (inner, outer), c :: rest)
      else match inner with
        | .list => .error (.next .wantsListMark (c :: rest))
        | .map => .error (.next .wantsObjectMark (c :: rest))

def skipTokens : Nat → List Bracket → List Char → Except Fault (List Char)
  | 0, _, text => .error (.behind .wantsValue text)
  | steps + 1, around, text => do
    let (opened, text) ← skipToken text
    let (next, text) ← match opened, around with
      | some bracket, _ => skipClosers (text.length + 1) false bracket around text
      | none, bracket :: outer => skipClosers (text.length + 1) true bracket outer text
      | none, [] => pure (none, text)
    match next with
    | none => return text
    | some (.list, outer) => skipTokens steps (.list :: outer) text
    | some (.map, outer) => do skipTokens steps (.map :: outer) (← skipName text)

def skipValue (text : List Char) : Except Fault (List Char) := skipTokens (text.length + 1) [] text

end LogSieve.Json
