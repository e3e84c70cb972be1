import LogSieve.Json.Skip

/-! Reading a text straight into a record. A record stands in the text as an object, whose unknown
fields are passed over, or as a list of its members in order, whose last ones may be left out.
Faults come in the order in which the text meets them. -/

namespace LogSieve.Json

def mistyped (wanted : String) (text : List Char) : Fault :=
  let after (found : Found) : Except Fault (List Char) → Fault
    | .ok rest => .behind (.mistyped found wanted) rest
    | .error fault => fault
  let number : Except Fault (Numeral × List Char) → Fault
    | .ok (n, rest) => .behind (.mistyped n.found wanted) rest
    | .error fault => fault
  match text with
  | [] => .next .wantsValue []
  | 'n' :: rest => after .null (word ['u', 'l', 'l'] rest)
  | 't' :: rest => after (.bool true) (word ['r', 'u', 'e'] rest)
  | 'f' :: rest => after (.bool false) (word ['a', 'l', 's', 'e'] rest)
  | '-' :: rest => number (numeral true rest)
  | '"' :: rest =>
    match quotedText rest with
    | .ok (found, rest) => .behind (.mistyped (.text found) wanted) rest
    | .error fault => fault
  | '[' :: rest => .behind (.mistyped .sequence wanted) ('[' :: rest)
  | '{' :: rest => .behind (.mistyped .map wanted) ('{' :: rest)
  | c :: rest =>
    if c.isDigit then number (numeral false (c :: rest)) else .next .wantsValue (c :: rest)

def parsed (wanted : String) (read : String → Except String α) : Step α := fun text =>
  match skipGap text with
  | [] => .error (.next .endInValue [])
  | '"' :: rest => do
    let (found, rest) ← quotedText rest
    match read found with
    | .ok value => return (value, rest)
    | .error reason => .error (.behind (.refused reason) rest)
  | rest => .error (mistyped wanted rest)

def anyText : Step String := parsed "a string" .ok

def natural (wanted : String) (limit : Nat) : Step Nat := fun text =>
  let check : Numeral × List Char → Except Fault (Nat × List Char)
    | (.natural n, rest) =>
      if n < limit then .ok (n, rest)
      else .error (.behind (.badValue (.integer n) wanted) rest)
    | (.negative n, rest) => .error (.behind (.badValue (.integer n) wanted) rest)
    | (.double x, rest) => .error (.behind (.mistyped (.double x) wanted) rest)
  match skipGap text with
  | [] => .error (.next .endInValue [])
  | '-' :: rest => do check (← numeral true rest)
  | c :: rest =>
    if c.isDigit then do check (← numeral false (c :: rest))
    else .error (mistyped wanted (c :: rest))

def orNull (step : Step α) : Step (Option α) := fun text =>
  match skipGap text with
  | 'n' :: rest => return (none, ← word ['u', 'l', 'l'] rest)
  | rest => do
    let (value, rest) ← step rest
    return (some value, rest)

def listOf (item : Nat → Step α) (brackets : Nat) : Step (List α) := fun text =>
  match skipGap text with
  | [] => .error (.next .endInValue [])
  | '[' :: rest =>
    match brackets with
    | 0 => .error (.next .tooDeep ('[' :: rest))
    | brackets + 1 => do
      let (list, rest) ← items (item brackets) (rest.length + 1) true rest
      return (list, ← closeList rest)
  | rest => .error (mistyped "a sequence" rest)

structure Member (draft : Type) where
  name : String
  optional : Bool
  filled : draft → Bool
  fill : Nat → draft → Step draft

/-- How a record is read: its title in messages, its members, and what a full draft gives. -/
structure Form (draft record : Type) where
  title : String
  members : List (Member draft)
  blank : draft
  finish : draft → Except Cause record

namespace Form

variable {draft record : Type}

/-- Fill the draft from fields up to the closing brace. A repeated field ends the reading. -/
def fillFields (form : Form draft record) (brackets : Nat) :
    Nat → Bool → draft → Step (Except Cause draft)
  | 0, _, _, text => .error (.behind .endInObject text)
  | steps + 1, first, state, text => do
    let (more, text) ← nextField first text
    if !more then return (.ok state, text)
    let (name, text) ← quotedText (text.drop 1)
    match form.members.find? (·.name == name) with
    | none => do
      fillFields form brackets steps false state (← skipValue (← colon text))
    | some member => do
      if member.filled state then return (.error (.repeatedField name), text)
      let (state, text) ← member.fill brackets state (← colon text)
      fillFields form brackets steps false state text

def fillItems (form : Form draft record) (brackets : Nat) :
    List (Member draft) → Nat → Bool → draft → Step (Except Cause draft)
  | [], _, _, state, text => .ok (.ok state, text)
  | member :: members, index, first, state, text => do
    let (more, text) ← nextItem first text
    if more then do
      let (state, text) ← member.fill brackets state text
      fillItems form brackets members (index + 1) false state text
    else if member.optional then fillItems form brackets members (index + 1) first state text
    else
      return (.error (.tooShort index s!"{form.title} with {form.members.length} elements"), text)

def pastObject (text : List Char) : List Char :=
  match skipGap text with
  | '}' :: rest => rest
  | rest => rest

def pastList (text : List Char) : List Char :=
  match skipGap text with
  | ']' :: rest => rest
  | ',' :: rest => skipGap rest
  | rest => rest

/-- The record, or a fault with no place of its own, which is put behind the closing bracket. -/
def settle (form : Form draft record) (close : List Char → Except Fault (List Char))
    (past : List Char → List Char) :
    Except Cause draft × List Char → Except Fault (record × List Char)
  | (outcome, text) =>
    match outcome.bind form.finish with
    | .ok result => do return (result, ← close text)
    | .error cause => .error (.behind cause (past text))

def read (form : Form draft record) (brackets : Nat) : Step record := fun text =>
  match skipGap text, brackets with
  | [], _ => .error (.next .endInValue [])
  | '[' :: rest, 0 => .error (.next .tooDeep ('[' :: rest))
  | '{' :: rest, 0 => .error (.next .tooDeep ('{' :: rest))
  | '[' :: rest, brackets + 1 => do
    form.settle closeList pastList (← form.fillItems brackets form.members 0 true form.blank rest)
  | '{' :: rest, brackets + 1 => do
    form.settle closeObject pastObject
      (← form.fillFields brackets (rest.length + 1) true form.blank rest)
  | rest, _ => .error (mistyped form.title rest)

def decode (form : Form draft record) (text : String) : Except Trouble record :=
  whole (form.read bracketLimit) text

end Form

def required (name : String) : Option α → Except Cause α
  | some value => .ok value
  | none => .error (.missingField name)

end LogSieve.Json
