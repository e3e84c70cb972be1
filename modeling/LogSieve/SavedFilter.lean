import LogSieve.FilterName
import LogSieve.Record
import LogSieve.Review

/-! Saved filters: criteria under a name, with the instants of the first and the last time that they
were saved. A document may leave out everything but the name. -/

namespace LogSieve

open Time

structure SavedFilter where
  name : String
  schemaVersion : String
  criteria : List Criterion
  createdAt : Option Instant
  lastModified : Option Instant

namespace SavedFilter

def currentVersion : String := "1.0"

def supportedVersions : List String := [currentVersion]

def isSupported (version : String) : Bool := supportedVersions.contains version

def fresh (name : String) (criteria : List Criterion) : SavedFilter :=
  ⟨name, currentVersion, criteria, none, none⟩

def stamped (saved : SavedFilter) (now : Instant) : SavedFilter :=
  { saved with createdAt := some (saved.createdAt.getD now), lastModified := some now }

def toJson (saved : SavedFilter) : Json :=
  let instant (name : String) (value : Option Instant) : List (String × Json) :=
    (value.map fun instant => (name, Json.string (instant.write .needed))).toList
  .object ([("name", .string saved.name), ("schemaVersion", .string saved.schemaVersion),
    ("criteria", .array (saved.criteria.map Criterion.toJson))] ++
    instant "createdAt" saved.createdAt ++ instant "lastModified" saved.lastModified)

def document (saved : SavedFilter) : String := saved.toJson.pretty

structure Draft where
  name : Option String
  schemaVersion : Option String
  criteria : Option (List Criterion)
  createdAt : Option (Option Stamp)
  lastModified : Option (Option Stamp)

def form : Json.Form Draft SavedFilter where
  title := "struct FilterConfiguration"
  members := [
    { name := "name", optional := false, filled := fun draft => draft.name.isSome,
      fill := fun _ draft text => do
        let (name, rest) ← Json.anyText text
        return ({ draft with name := some name }, rest) },
    { name := "schemaVersion", optional := true,
      filled := fun draft => draft.schemaVersion.isSome,
      fill := fun _ draft text => do
        let (schemaVersion, rest) ← Json.anyText text
        return ({ draft with schemaVersion := some schemaVersion }, rest) },
    { name := "criteria", optional := true, filled := fun draft => draft.criteria.isSome,
      fill := fun brackets draft text => do
        let (criteria, rest) ← Json.listOf Criterion.form.read brackets text
        return ({ draft with criteria := some criteria }, rest) },
    { name := "createdAt", optional := true, filled := fun draft => draft.createdAt.isSome,
      fill := fun _ draft text => do
        let (createdAt, rest) ← Json.orNull Record.anyStamp text
        return ({ draft with createdAt := some createdAt }, rest) },
    { name := "lastModified", optional := true,
      filled := fun draft => draft.lastModified.isSome,
      fill := fun _ draft text => do
        let (lastModified, rest) ← Json.orNull Record.anyStamp text
        return ({ draft with lastModified := some lastModified }, rest) }]
  blank := ⟨none, none, none, none, none⟩
  finish draft := do
    return {
      name := ← Json.required "name" draft.name
      schemaVersion := draft.schemaVersion.getD currentVersion
      criteria := draft.criteria.getD []
      createdAt := (draft.createdAt.getD none).map (·.instant)
      lastModified := (draft.lastModified.getD none).map (·.instant) }

def ofDocument (text : String) : Except Json.Trouble SavedFilter := form.decode text

def nameFindings (saved : SavedFilter) : Findings :=
  match FilterName.fault? saved.name with
  | some fault => .ofErrors [s!"Invalid configuration name '{saved.name}': {fault.message}"]
  | none => .clean

def versionFindings (saved : SavedFilter) : Findings :=
  if isSupported saved.schemaVersion then .clean
  else .ofErrors [s!"Unsupported schema version: {saved.schemaVersion}. Supported versions: " ++
    ", ".intercalate supportedVersions]

def sizeFindings (saved : SavedFilter) : Findings :=
  if saved.criteria.isEmpty then
    Findings.clean.addWarning "Configuration has no criteria and matches every record"
  else .clean

def review (matching : Matching) (saved : SavedFilter) : Findings :=
  ((saved.nameFindings.merge saved.versionFindings).merge saved.sizeFindings).merge
    (LogSieve.review matching saved.criteria)

end SavedFilter

end LogSieve
