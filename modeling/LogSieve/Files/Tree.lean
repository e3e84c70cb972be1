import LogSieve.Files.Fault
import LogSieve.Files.Path
import LogSieve.Text.Utf8

/-! A tree of files and directories, kept as a map from places to what is there. A place is the
list of names on the way from the root, which is always a directory. -/

namespace LogSieve.Files

open Text

abbrev Location := List String

inductive Node where
  | file (content : Octets)
  | directory
  deriving DecidableEq, Repr

structure Tree where
  entries : List (Location × Node)

namespace Tree

def empty : Tree := ⟨[]⟩

def get? (tree : Tree) (place : Location) : Option Node :=
  if place = [] then some .directory else (tree.entries.find? (·.1 = place)).map (·.2)

def erase (tree : Tree) (place : Location) : Tree := ⟨tree.entries.filter (·.1 ≠ place)⟩

def put (tree : Tree) (place : Location) (node : Node) : Tree :=
  ⟨(place, node) :: (tree.erase place).entries⟩

theorem get?_root (tree : Tree) : tree.get? [] = some .directory := rfl

theorem get?_put_self (tree : Tree) {place : Location} (node : Node) (h : place ≠ []) :
    (tree.put place node).get? place = some node := by
  simp [get?, put, h]

theorem get?_erase_self (tree : Tree) {place : Location} (h : place ≠ []) :
    (tree.erase place).get? place = none := by
  simp [get?, erase, h]

theorem get?_erase_of_ne (tree : Tree) {place other : Location} (h : other ≠ place) :
    (tree.erase place).get? other = tree.get? other := by
  have same (entry : Location × Node) :
      (decide (entry.1 ≠ place) && decide (entry.1 = other)) = decide (entry.1 = other) := by
    by_cases ho : entry.1 = other <;> simp [ho, h]
  simp only [get?, erase, List.find?_filter, ← Bool.and_eq_true, Bool.decide_eq_true, same]

theorem get?_put_of_ne (tree : Tree) {place other : Location} (node : Node) (h : other ≠ place) :
    (tree.put place node).get? other = tree.get? other := by
  rw [← tree.get?_erase_of_ne h]
  simp [get?, put, Ne.symm h]

def nameLimit : Nat := 255

def pathLimit : Nat := 4095

/-- Where the steps lead. Every place on the way has to be a directory; the last need not exist. -/
def walk (tree : Tree) : Location → List String → Except Fault Location
  | here, [] => .ok here
  | here, step :: rest =>
    match tree.get? here with
    | none => .error .missing
    | some (.file _) => .error .noDirectory
    | some .directory =>
      if step = "." then tree.walk here rest
      else if step = ".." then tree.walk here.dropLast rest
      else if nameLimit < octetCount step.toList then .error .longName
      else tree.walk (here ++ [step]) rest

def start (here : Location) (path : String) : Location := if Path.isAbsolute path then [] else here

def pathFault? (path : String) : Option Fault :=
  if path.isEmpty then some .missing
  else if path.toList.contains '\x00' then some .badPath
  else if pathLimit < octetCount path.toList then some .longName
  else none

def locate (tree : Tree) (here : Location) (path : String) : Except Fault Location :=
  match pathFault? path with
  | some fault => .error fault
  | none =>
    tree.walk (start here path) (Path.steps path ++ if Path.endsInSlash path then ["."] else [])

def read (tree : Tree) (place : Location) : Except Fault Octets :=
  match tree.get? place with
  | none => .error .missing
  | some .directory => .error .directory
  | some (.file content) => .ok content

def write (tree : Tree) (place : Location) (content : Octets) : Except Fault Tree :=
  match tree.get? place with
  | some .directory => .error .directory
  | _ => .ok (tree.put place (.file content))

def remove (tree : Tree) (place : Location) : Except Fault Tree :=
  match tree.get? place with
  | none => .error .missing
  | some .directory => .error .directory
  | some (.file _) => .ok (tree.erase place)

def rename (tree : Tree) (source target : Location) : Except Fault Tree :=
  match tree.get? source with
  | none => .error .missing
  | some .directory => .error .directory
  | some (.file content) =>
    match tree.get? target with
    | some .directory => .error .directory
    | _ => .ok ((tree.erase source).put target (.file content))

def makeDirectory (tree : Tree) (place : Location) : Except Fault Tree :=
  match tree.get? place with
  | some _ => .error .alreadyThere
  | none => .ok (tree.put place .directory)

def isDirectory (tree : Tree) (here : Location) (steps : List String) : Bool :=
  match tree.walk here steps with
  | .ok place => tree.get? place = some .directory
  | .error _ => false

def settle (tree : Tree) (here : Location) (steps : List String) : Except Fault Tree :=
  match (tree.walk here steps).bind tree.makeDirectory with
  | .ok made => .ok made
  | .error fault => if tree.isDirectory here steps then .ok tree else .error fault

/-- Make a directory and those above it that are missing. The steps are given last one first. What
was made before a failure stays. -/
def makeDirectories (tree : Tree) (here : Location) : List String → Except Fault Unit × Tree
  | [] => (.ok (), tree)
  | step :: above =>
    match tree.settle here (above.reverse ++ [step]) with
    | .ok made => (.ok (), made)
    | .error fault =>
      if fault = .missing then
        match tree.makeDirectories here above with
        | (.ok (), grown) =>
          match grown.settle here (above.reverse ++ [step]) with
          | .ok made => (.ok (), made)
          | .error fault => (.error fault, grown)
        | failed => failed
      else (.error fault, tree)

def names (tree : Tree) (place : Location) : Except Fault (List String) :=
  match tree.get? place with
  | none => .error .missing
  | some (.file _) => .error .noDirectory
  | some .directory => .ok (tree.entries.filterMap fun entry =>
      if entry.1.dropLast = place then entry.1.getLast? else none)

end Tree

end LogSieve.Files
