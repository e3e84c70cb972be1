import LogSieve.Files.Tree
import LogSieve.Host

/-! A machine as a value: a tree of files, the directory at hand, what stands at standard input and
the reports so far. Requests can be made to fail: every request takes the next turn, and what has
no turn works. A write that fails may leave any content behind. -/

namespace LogSieve

open Files Text

inductive Turn where
  | works
  | fails (fault : Fault) (left : Option Octets)
  deriving DecidableEq, Repr

structure Machine where
  tree : Tree
  here : Location
  input : Octets
  turns : List Turn
  reports : List Report

namespace Machine

def ofTree (tree : Tree) (here : Location) (input : Octets) : Machine := ⟨tree, here, input, [], []⟩

def leave (machine : Machine) (path : String) (left : Option Octets) : Tree :=
  match left, machine.tree.locate machine.here path with
  | some content, .ok place =>
    match machine.tree.write place content with
    | .ok tree => tree
    | .error _ => machine.tree
  | _, _ => machine.tree

/-- Take a turn: let `act` work on the tree, or fail and keep `failed`. -/
def request (failed : Machine → Option Octets → Tree)
    (act : Machine → Except Fault α × Tree) : StateM Machine (Except Fault α) := fun machine =>
  match machine.turns with
  | .fails fault left :: rest =>
    (.error fault, { machine with turns := rest, tree := failed machine left })
  | turns =>
    let (answer, tree) := act machine
    (answer, { machine with turns := turns.drop 1, tree := tree })

def look (act : Machine → Except Fault α) : StateM Machine (Except Fault α) :=
  request (fun machine _ => machine.tree) fun machine => (act machine, machine.tree)

def change (failed : Machine → Option Octets → Tree) (act : Machine → Except Fault Tree) :
    StateM Machine (Except Fault Unit) :=
  request failed fun machine =>
    match act machine with
    | .ok tree => (.ok (), tree)
    | .error fault => (.error fault, machine.tree)

def kept (machine : Machine) (_ : Option Octets) : Tree := machine.tree

def locate (machine : Machine) (path : String) : Except Fault Location :=
  machine.tree.locate machine.here path

def isFile (machine : Machine) (path : String) : Bool :=
  match machine.locate path with
  | .ok place => (machine.tree.read place).isOk
  | .error _ => false

def makeDirectories (machine : Machine) (path : String) : Except Fault Unit × Tree :=
  if path.isEmpty then (.ok (), machine.tree)
  else match Tree.pathFault? path with
    | some fault => (.error fault, machine.tree)
    | none =>
      machine.tree.makeDirectories (Tree.start machine.here path) (Path.steps path).reverse

end Machine

instance : Host (StateM Machine) where
  read path := Machine.look fun machine => do machine.tree.read (← machine.locate path)
  write path content := Machine.change (·.leave path ·) fun machine => do
    machine.tree.write (← machine.locate path) content
  rename source target := Machine.change Machine.kept fun machine => do
    machine.tree.rename (← machine.locate source) (← machine.locate target)
  remove path := Machine.change Machine.kept fun machine => do
    machine.tree.remove (← machine.locate path)
  makeDirectories path := Machine.request Machine.kept fun machine => machine.makeDirectories path
  names path := Machine.look fun machine => do machine.tree.names (← machine.locate path)
  isFile path := return (← get).isFile path
  input := return (← get).input
  report report := modify fun machine => { machine with reports := machine.reports ++ [report] }

end LogSieve
