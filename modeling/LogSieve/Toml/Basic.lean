/-! Values of a TOML document. A table remembers how it came about, because that decides what may
still be added to it. -/

namespace LogSieve

inductive Toml.Origin where
  | header
  | path
  | dotted
  | braces
  deriving DecidableEq, Repr

inductive Toml where
  | text (value : String)
  | truth (value : Bool)
  | integer (value : Int)
  | decimal (written : String)
  | moment (written : String)
  | list (items : List Toml)
  | table (origin : Toml.Origin) (entries : List (String × Toml))
  | tables (elements : List (List (String × Toml)))
  deriving Inhabited

namespace Toml

abbrev Entries := List (String × Toml)

def lookup? (name : String) (entries : Entries) : Option Toml :=
  (entries.find? fun entry => entry.1 = name).map (·.2)

def update (name : String) (change : Option Toml → Option Toml) : Entries → Option Entries
  | [] => do return [(name, ← change none)]
  | entry :: rest =>
    if entry.1 = name then do return (name, ← change (some entry.2)) :: rest
    else do return entry :: (← update name change rest)

def updateLast (change : Entries → Option Entries) : List Entries → Option (List Entries)
  | [] => none
  | [last] => do return [← change last]
  | first :: rest => do return first :: (← updateLast change rest)

def along (change : Entries → Option Entries) : List String → Entries → Option Entries
  | [], entries => change entries
  | name :: path, entries =>
    update name (fun
      | none => do return table .path (← along change path [])
      | some (table .braces _) => none
      | some (table origin inner) => do return table origin (← along change path inner)
      | some (tables elements) => do return tables (← updateLast (along change path) elements)
      | some _ => none) entries

/-- The table of a header, which no other header and no dotted key may have made. -/
def openTable (name : String) : Entries → Option Entries :=
  update name fun
    | none => some (table .header [])
    | some (table .path inner) => some (table .header inner)
    | some _ => none

def openElement (name : String) : Entries → Option Entries :=
  update name fun
    | none => some (tables [[]])
    | some (tables elements) => some (tables (elements ++ [[]]))
    | some _ => none

/-- Give a value to a dotted key. Every name is given a value once, and tables with a header are not
added to; `fits` tells whether this table can hold the last name. -/
def assign (value : Toml) : Bool → List String → Entries → Option Entries
  | _, [], _ => none
  | fits, [name], entries =>
    if fits then
      update name (fun
        | none => some value
        | some _ => none) entries
    else none
  | _, name :: next :: path, entries =>
    update name (fun
      | none => do return table .dotted (← assign value true (next :: path) [])
      | some (table .dotted inner) => do
        return table .dotted (← assign value true (next :: path) inner)
      | some (table .path inner) => do
        return table .path (← assign value false (next :: path) inner)
      | some (tables elements) => do
        return tables (← updateLast (assign value false (next :: path)) elements)
      | some _ => none) entries

end Toml

end LogSieve
