import LogSieve.Files.Path
import LogSieve.Host
import LogSieve.SavedFilter

/-! A store keeps one document for each saved filter in a directory: `<name>.json`. Saving is
strict, so a filter with an error is never written; loading is lenient, so no document is lost when
the rules change. A document is written beside its place first and then put there as a whole. -/

namespace LogSieve

open Files Text

inductive StoreError where
  | rejected (findings : Findings)
  | badName (name : String) (fault : FilterName.Fault)
  | unreadable (trouble : Json.Trouble)
  | files (path : String) (fault : Files.Fault)
  | cancelled

namespace StoreError

def message : StoreError → String
  | rejected findings => "Configuration validation failed: " ++ "; ".intercalate findings.errors
  | badName name fault => s!"Invalid configuration name '{name}': {fault.message}"
  | unreadable trouble => s!"Failed to parse configuration: {trouble.message}"
  | files path fault => s!"I/O error on '{path}': {fault.message}"
  | cancelled => "Configuration operation was cancelled"

end StoreError

structure Store where
  directory : String
  matching : Matching

structure Saving where
  outcome : Except StoreError String
  filter : SavedFilter

namespace Store

def topic : String := "log_filter::store"

def documentPath (store : Store) (name : String) : String :=
  Path.join store.directory (name ++ ".json")

def draftPath (store : Store) (name : String) : String :=
  Path.join store.directory (name ++ ".json.tmp")

def review (store : Store) (filter : SavedFilter) : Findings := filter.review store.matching

variable {m : Type → Type} [Monad m] [Host m]

def discardDraft (path : String) : m Unit := do
  match ← Host.remove path with
  | .ok () => return
  | .error fault =>
    if fault ≠ .missing then
      Host.note .warn topic "Failed to remove temporary document"
        [("path", path), ("error", fault.message)]

def replaceDocument (draft document text : String) : m (Except StoreError Unit) := do
  match ← Host.writeText draft text with
  | .error fault => return .error (.files draft fault)
  | .ok () =>
    match ← Host.rename draft document with
    | .error fault => return .error (.files document fault)
    | .ok () => return .ok ()

def writeDocument (store : Store) (filter : SavedFilter) : m (Except StoreError String) := do
  let document := store.documentPath filter.name
  let draft := store.draftPath filter.name
  match ← Host.makeDirectories store.directory with
  | .error fault => return .error (.files store.directory fault)
  | .ok () =>
    match ← replaceDocument draft document filter.document with
    | .error error =>
      discardDraft draft
      return .error error
    | .ok () =>
      Host.note .info topic "Saved filter configuration"
        [("config_name", quoted filter.name), ("path", document)]
      return .ok document

/-- Save a filter, stamped with the instant. It keeps its old stamps unless its document is
written. -/
def save (store : Store) (now : Time.Instant) (cancelled : Bool) (filter : SavedFilter) :
    m Saving := do
  let findings := store.review filter
  if !findings.valid then return ⟨.error (.rejected findings), filter⟩
  findings.warnings.forM fun warning =>
    Host.note .debug topic "Configuration warning"
      [("config_name", filter.name), ("warning", warning)]
  if cancelled then return ⟨.error .cancelled, filter⟩
  match ← store.writeDocument (filter.stamped now) with
  | .error error => return ⟨.error error, filter⟩
  | .ok path => return ⟨.ok path, filter.stamped now⟩

def noteDoubts (store : Store) (name : String) (filter : SavedFilter) : m Unit := do
  let findings := store.review filter
  if !findings.valid then
    Host.note .warn topic "Loaded configuration does not pass validation"
      [("config_name", quoted name), ("errors", quotedList findings.errors)]
  if filter.name ≠ name then
    Host.note .warn topic "Configuration document name differs from its file name"
      [("config_name", quoted name), ("stored_name", filter.name)]

def load (store : Store) (name : String) : m (Except StoreError (Option SavedFilter)) := do
  match FilterName.fault? name with
  | some fault => return .error (.badName name fault)
  | none =>
    let path := store.documentPath name
    match ← Host.readText path with
    | .error fault =>
      return if fault = .missing then .ok none else .error (.files path fault)
    | .ok text =>
      match SavedFilter.ofDocument text with
      | .error trouble => return .error (.unreadable trouble)
      | .ok filter =>
        store.noteDoubts name filter
        return .ok (some filter)

def delete (store : Store) (name : String) : m (Except StoreError Bool) := do
  match FilterName.fault? name with
  | some fault => return .error (.badName name fault)
  | none =>
    let path := store.documentPath name
    match ← Host.remove path with
    | .error fault =>
      return if fault = .missing then .ok false else .error (.files path fault)
    | .ok () =>
      Host.note .info topic "Deleted filter configuration" [("config_name", quoted name)]
      return .ok true

def documentNames (store : Store) : List String → m (List String)
  | [] => return []
  | entry :: rest => do
    let path := Path.join store.directory entry
    let (name, ending) := Path.splitName entry
    let isDocument := (← Host.isFile path) && ending == some "json"
    if isDocument then return name :: (← store.documentNames rest)
    else
      Host.note .debug topic "Skipping non-document entry" [("path", path)]
      store.documentNames rest

def names (store : Store) : m (Except StoreError (List String)) := do
  match ← Host.names store.directory with
  | .error fault =>
    return if fault = .missing then .ok [] else .error (.files store.directory fault)
  | .ok entries =>
    let found ← store.documentNames entries
    return .ok (found.mergeSort fun a b => decide (a ≤ b))

end Store

end LogSieve
