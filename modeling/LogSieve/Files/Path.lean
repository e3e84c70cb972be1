import LogSieve.Text.Pieces

/-! Paths as texts. A path is absolute or starts from the directory at hand; its steps are names,
`.` for the same directory and `..` for the one above. -/

namespace LogSieve.Files.Path

def join (directory path : String) : String :=
  if path.startsWith "/" || directory.isEmpty then path
  else if directory.endsWith "/" then directory ++ path
  else directory ++ "/" ++ path

def isAbsolute (path : String) : Bool := path.toList.head? = some '/'

/-- The steps of a path; repeated slashes count as one. -/
def steps (path : String) : List String :=
  ((Text.pieces '/' path.toList).filter fun piece => !piece.isEmpty).map String.ofList

/-- A slash at the end asks for a directory. -/
def endsInSlash (path : String) : Bool := path.toList.getLast? = some '/'

def isDash (path : String) : Bool :=
  !isAbsolute path && match steps path with
    | "-" :: rest => rest.all (· == ".")
    | _ => false

/-- The name of a file in front of its last dot and what follows the dot, unless the dot comes
first. -/
def splitName (name : String) : String × Option String :=
  let back := name.toList.reverse
  let ending := back.takeWhile (· != '.')
  match back.dropWhile (· != '.') with
  | '.' :: stem =>
    if stem.isEmpty then (name, none)
    else (String.ofList stem.reverse, some (String.ofList ending.reverse))
  | _ => (name, none)

end LogSieve.Files.Path
