import LogSieve.Json.Scanner

/-! Reading a JSON value. Brackets may stand 127 deep; a deeper one is a fault of its own, found
before anything inside it. -/

namespace LogSieve.Json

abbrev Step (α : Type) := List Char → Except Fault (α × List Char)

def nextItem (first : Bool) (text : List Char) : Except Fault (Bool × List Char) :=
  match skipGap text with
  | [] => .error (.next .endInList [])
  | ']' :: rest => .ok (false, ']' :: rest)
  | c :: rest =>
    if first then .ok (true, c :: rest)
    else if c = ',' then
      match skipGap rest with
      | [] => .error (.next .endInValue [])
      | ']' :: rest => .error (.next .commaAtEnd (']' :: rest))
      | text => .ok (true, text)
    else .error (.next .wantsListMark (c :: rest))

def nextField (first : Bool) (text : List Char) : Except Fault (Bool × List Char) :=
  match skipGap text with
  | [] => .error (.next .endInObject [])
  | '}' :: rest => .ok (false, '}' :: rest)
  | c :: rest =>
    if first then
      if c = '"' then .ok (true, c :: rest) else .error (.next .keyNotString (c :: rest))
    else if c = ',' then
      match skipGap rest with
      | [] => .error (.next .endInValue [])
      | '"' :: rest => .ok (true, '"' :: rest)
      | '}' :: rest => .error (.next .commaAtEnd ('}' :: rest))
      | text => .error (.next .keyNotString text)
    else .error (.next .wantsObjectMark (c :: rest))

def colon (text : List Char) : Except Fault (List Char) :=
  match skipGap text with
  | [] => .error (.next .endInObject [])
  | ':' :: rest => .ok rest
  | rest => .error (.next .wantsColon rest)

def closeList (text : List Char) : Except Fault (List Char) :=
  match skipGap text with
  | [] => .error (.next .endInList [])
  | ']' :: rest => .ok rest
  | ',' :: rest =>
    match skipGap rest with
    | ']' :: rest => .error (.next .commaAtEnd (']' :: rest))
    | rest => .error (.next .textAfterEnd rest)
  | rest => .error (.next .textAfterEnd rest)

def closeObject (text : List Char) : Except Fault (List Char) :=
  match skipGap text with
  | [] => .error (.next .endInObject [])
  | '}' :: rest => .ok rest
  | ',' :: rest => .error (.next .commaAtEnd (',' :: rest))
  | rest => .error (.next .textAfterEnd rest)

/-- The items of a list up to its closing bracket. Each takes a character at least, so a number of
steps above the length of the text is enough. -/
def items (item : Step α) : Nat → Bool → Step (List α)
  | 0, _, text => .error (.behind .endInList text)
  | steps + 1, first, text => do
    let (more, text) ← nextItem first text
    if !more then return ([], text)
    let (head, text) ← item text
    let (tail, text) ← items item steps false text
    return (head :: tail, text)

def fields (value : Step Json) : Nat → Bool → Step (List (String × Json))
  | 0, _, text => .error (.behind .endInObject text)
  | steps + 1, first, text => do
    let (more, text) ← nextField first text
    if !more then return ([], text)
    let (name, text) ← quotedText (text.drop 1)
    let (head, text) ← value (← colon text)
    let (tail, text) ← fields value steps false text
    return ((name, head) :: tail, text)

/-- A value whose brackets are read with `inside`; nothing stands inside when the limit is reached.
-/
def valueWith (inside : Option (Step Json)) : Step Json := fun text =>
  match skipGap text with
  | [] => .error (.next .endInValue [])
  | 'n' :: rest => return (.null, ← word ['u', 'l', 'l'] rest)
  | 't' :: rest => return (.bool true, ← word ['r', 'u', 'e'] rest)
  | 'f' :: rest => return (.bool false, ← word ['a', 'l', 's', 'e'] rest)
  | '-' :: rest => do
    let (n, rest) ← numeral true rest
    return (n.toJson, rest)
  | '"' :: rest => do
    let (value, rest) ← quotedText rest
    return (.string value, rest)
  | '[' :: rest =>
    match inside with
    | none => .error (.next .tooDeep ('[' :: rest))
    | some value => do
      let (list, rest) ← items value (rest.length + 1) true rest
      return (.array list, ← closeList rest)
  | '{' :: rest =>
    match inside with
    | none => .error (.next .tooDeep ('{' :: rest))
    | some value => do
      let (list, rest) ← fields value (rest.length + 1) true rest
      return (ofFields list, ← closeObject rest)
  | c :: rest =>
    if c.isDigit then do
      let (n, rest) ← numeral false (c :: rest)
      return (n.toJson, rest)
    else .error (.next .wantsValue (c :: rest))

def value : Nat → Step Json
  | 0 => valueWith none
  | brackets + 1 => valueWith (some (value brackets))

def bracketLimit : Nat := 127

def close (text : List Char) : Except Fault Unit :=
  match skipGap text with
  | [] => .ok ()
  | rest => .error (.next .textAfterEnd rest)

def whole (step : Step α) (text : String) : Except Trouble α :=
  let chars := text.toList
  match (do
    let (result, rest) ← step chars
    close rest
    return result : Except Fault α) with
  | .ok result => .ok result
  | .error fault => .error (fault.locate chars)

def parse (text : String) : Except Trouble Json := whole (value bracketLimit) text

end LogSieve.Json
