import LogSieve.Comparison
import LogSieve.Files.Path
import LogSieve.Host
import LogSieve.Json.Writer
import LogSieve.Toml.Reader

/-! Settings: how texts are compared and where saved filters are kept. They stand in a TOML document
that may leave out anything and may hold more than is asked for. -/

namespace LogSieve

open Files Text

structure Settings where
  matching : Matching
  directory : Option String

structure Surroundings where
  configHome : Option String
  home : Option String
  deriving Repr

namespace Surroundings

/-- The directory for settings of all programs: an absolute one that is set, or one below home. -/
def configDirectory (surroundings : Surroundings) : Option String :=
  match surroundings.configHome.filter Path.isAbsolute with
  | some directory => some directory
  | none => surroundings.home.map fun home => Path.join home ".config"

def filterDirectory (surroundings : Surroundings) : Option String :=
  surroundings.configDirectory.map fun directory =>
    Path.join (Path.join directory "log-filter") "filters"

end Surroundings

inductive SettingsFault where
  | badLine (number : Nat)
  | badKind (key wanted : String)
  deriving DecidableEq, Repr

def SettingsFault.message : SettingsFault → String
  | badLine number => s!"TOML parse error at line {number}"
  | badKind key wanted => s!"invalid type for key `{key}`, expected {wanted}"

inductive SettingsError where
  | unread (path : String) (fault : Fault)
  | unparsed (path : String) (fault : SettingsFault)
  deriving DecidableEq, Repr

namespace SettingsError

def cause : SettingsError → String
  | unread _ fault => fault.message
  | unparsed _ fault => fault.message

def message : SettingsError → String
  | unread path fault => s!"Failed to read config file '{path}': {fault.message}"
  | unparsed path fault => s!"Failed to parse config file '{path}': {fault.message}"

end SettingsError

namespace Settings

def default : Settings := ⟨⟨false⟩, none⟩

/-- The one member of a section: by its name in a table or by its place in a list. A date has no
members at all. -/
def member (title name : String) : Option Toml → Except SettingsFault (Option Toml)
  | none => .ok none
  | some (.table _ entries) => .ok (Toml.lookup? name entries)
  | some (.list items) => .ok items.head?
  | some (.tables elements) => .ok (elements.head?.map (Toml.table .header))
  | some (.moment _) => .ok none
  | some _ => .error (.badKind title "a table")

def ofEntries (entries : Toml.Entries) : Except SettingsFault Settings := do
  let matching := Toml.lookup? "matching" entries
  let caseSensitive ← match ← member "matching" "case_sensitive" matching with
    | none => pure false
    | some (.truth value) => pure value
    | some _ => .error (.badKind "case_sensitive" "a boolean")
  let store := Toml.lookup? "store" entries
  let directory ← match ← member "store" "directory" store with
    | none => pure none
    | some (.text value) => pure (some value)
    | some _ => .error (.badKind "directory" "a string")
  return ⟨⟨caseSensitive⟩, directory⟩

def ofText (text : String) : Except SettingsFault Settings :=
  match Toml.entries text.toList with
  | .ok entries => ofEntries entries
  | .error rest => .error (.badLine (Toml.lineNumber text.toList rest))

def filterDirectory (settings : Settings) (surroundings : Surroundings) : Option String :=
  settings.directory.or surroundings.filterDirectory

def toJson (settings : Settings) : Json :=
  let directory : Json := match settings.directory with
    | some path => .string path
    | none => .null
  .object [("matching", .object [("case_sensitive", .bool settings.matching.caseSensitive)]),
    ("store", .object [("directory", directory)])]

def shown (settings : Settings) : String :=
  let directory := match settings.directory with
    | some path => "Some(" ++ quoted path ++ ")"
    | none => "None"
  let matching := s!"MatchOptions \x7b case_sensitive: {settings.matching.caseSensitive} \x7d"
  let store := s!"StoreSettings \x7b directory: {directory} \x7d"
  s!"EngineConfig \x7b matching: {matching}, store: {store} \x7d"

variable {m : Type → Type} [Monad m] [Host m]

def load : Option String → m (Except SettingsError Settings)
  | none => return .ok default
  | some path => do
    match ← Host.readText path with
    | .error fault => return .error (.unread path fault)
    | .ok text => return (ofText text).mapError (SettingsError.unparsed path)

end Settings

end LogSieve
