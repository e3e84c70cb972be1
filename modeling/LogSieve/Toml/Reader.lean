import LogSieve.Toml.Number

/-! Reading TOML documents: statements line by line, each of which gives a value to a key or opens a
table for those that follow. -/

namespace LogSieve.Toml

def pair (value : Step Toml) (text : List Char) : Option ((List String × Toml) × List Char) := do
  let (name, rest) ← key text
  let (found, rest) ← value (skipGap (← mark '=' rest))
  return ((name, found), rest)

def items (value : Step Toml) : Nat → Step (List Toml)
  | 0, _ => none
  | steps + 1, front =>
    match skipLines false front with
    | ']' :: rest => some ([], rest)
    | front => do
      let (item, rest) ← value front
      match skipLines false rest with
      | ',' :: rest => do
        let (others, rest) ← items value steps rest
        return (item :: others, rest)
      | ']' :: rest => return ([item], rest)
      | _ => none

def fields (value : Step Toml) : Nat → Entries → Step Entries
  | 0, _, _ => none
  | steps + 1, entries, front => do
    let ((name, found), rest) ← pair value (skipGap front)
    let entries ← assign found true name entries
    match skipGap rest with
    | ',' :: rest => fields value steps entries rest
    | '}' :: rest => return (entries, rest)
    | _ => none

def readValue : Nat → Step Toml
  | levels, front =>
    match front with
    | '"' :: _ | '\'' :: _ => do
      let (found, rest) ← anyText front
      return (.text found, rest)
    | 't' :: 'r' :: 'u' :: 'e' :: rest => some (.truth true, rest)
    | 'f' :: 'a' :: 'l' :: 's' :: 'e' :: rest => some (.truth false, rest)
    | '[' :: rest =>
      match levels with
      | 0 => none
      | levels + 1 => do
        let (found, rest) ← items (readValue levels) (rest.length + 1) rest
        return (.list found, rest)
    | '{' :: rest =>
      match levels with
      | 0 => none
      | levels + 1 =>
        match skipGap rest with
        | '}' :: rest => some (.table .braces [], rest)
        | rest => do
          let (entries, rest) ← fields (readValue levels) (rest.length + 1) [] rest
          return (.table .braces entries, rest)
    | rest => (dateTime rest).or (number rest)

inductive Statement where
  | blank
  | assign (name : List String) (value : Toml)
  | openTable (path : List String)
  | openElement (path : List String)

def statement (text : List Char) : Option (Statement × List Char) :=
  match skipGap text with
  | [] => some (.blank, [])
  | '#' :: rest => do return (.blank, ← lineEnd ('#' :: rest))
  | '\n' :: rest => some (.blank, rest)
  | '\r' :: rest => do return (.blank, ← lineBreak? ('\r' :: rest))
  | '[' :: '[' :: rest => do
    let (path, rest) ← key rest
    return (.openElement path, ← lineEnd (← mark ']' (← mark ']' rest)))
  | '[' :: rest => do
    let (path, rest) ← key rest
    return (.openTable path, ← lineEnd (← mark ']' rest))
  | front => do
    let ((name, value), rest) ← pair (readValue (nestingLimit - 1)) front
    return (.assign name value, ← lineEnd rest)

structure Draft where
  entries : Entries
  path : List String

def Draft.apply (draft : Draft) : Statement → Option Draft
  | .blank => some draft
  | .assign name value => do
    return { draft with entries := ← along (assign value true name) draft.path draft.entries }
  | .openTable path => do
    return ⟨← along (openTable (path.getLast?.getD "")) path.dropLast draft.entries, path⟩
  | .openElement path => do
    return ⟨← along (openElement (path.getLast?.getD "")) path.dropLast draft.entries, path⟩

/-- Why a text is no document: the rest of it from the line that cannot be read or carried out. -/
abbrev Fault := List Char

def statements : Nat → Draft → List Char → Except Fault Draft
  | 0, _, front => .error front
  | _, draft, [] => .ok draft
  | steps + 1, draft, front =>
    match statement front with
    | none => .error front
    | some (found, rest) =>
      match draft.apply found with
      | none => .error front
      | some draft => statements steps draft rest

def skipMark (text : List Char) : List Char :=
  match text with
  | '\uFEFF' :: rest => rest
  | rest => rest

def entries (text : List Char) : Except Fault Entries :=
  let text := skipMark text
  (statements (text.length + 1) ⟨[], []⟩ text).map (·.entries)

def lineNumber (text rest : List Char) : Nat :=
  ((text.take (text.length - rest.length)).filter (· = '\n')).length + 1

end LogSieve.Toml
