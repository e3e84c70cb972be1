import LogSieve.Proofs.MachineRequests
import LogSieve.Proofs.Readings
import LogSieve.Proofs.Utf8
import LogSieve.Store

/-! Loading a filter. Loading only looks at the machine, so what is loaded depends on the document
that is there and on nothing else, as long as no request fails as if the document were missing. A
document that this store has written is loaded as it was written, and a filter that is loaded from
any document has instants that can be written again. -/

namespace LogSieve

open Files Text

namespace Store

variable {store : Store} {name : String} {machine after : Machine}

def Loads (store : Store) (name : String) (machine : Machine) (found : Option SavedFilter) : Prop :=
  ((store.load name : StateM Machine _).run machine.obliging).1 = .ok found

theorem inquires_noteDoubts (store : Store) (name : String) (filter : SavedFilter) :
    Machine.Inquires (store.noteDoubts name filter) := by
  unfold noteDoubts
  refine (Machine.inquires_note _ _ _ _).maybe ?_
  split
  · exact Machine.inquires_note _ _ _ _
  · exact .pure _

theorem inquires_load (store : Store) (name : String) : Machine.Inquires (store.load name) := by
  unfold load
  split
  · exact .pure _
  · refine (Machine.inquires_readText _).bind fun answer => ?_
    cases answer with
    | error fault => exact .pure _
    | ok text =>
      dsimp only
      split
      · exact .pure _
      · exact (store.inquires_noteDoubts name _).bind fun _ => .pure _

def loaded (store : Store) (name : String) (answer : Except Fault Octets) :
    Except StoreError (Option SavedFilter) :=
  match answer.bind Host.decoded with
  | .error fault =>
    if fault = .missing then .ok none else .error (.files (store.documentPath name) fault)
  | .ok text =>
    match SavedFilter.ofDocument text with
    | .error trouble => .error (.unreadable trouble)
    | .ok filter => .ok (some filter)

theorem run_load_fst (legal : FilterName.fault? name = none) (machine : Machine) :
    ((store.load name : StateM Machine _).run machine).1 = store.loaded name
      ((Host.read (store.documentPath name) : StateM Machine _).run machine).1 := by
  generalize ran : (Host.read (store.documentPath name) : StateM Machine _).run machine = read
  obtain ⟨answer, middle⟩ := read
  rw [load, legal, loaded]
  dsimp only
  rw [Machine.run_bind_of_run (Machine.run_readText ran)]
  cases answer.bind Host.decoded with
  | error fault => rfl
  | ok text =>
    dsimp only
    cases SavedFilter.ofDocument text with
    | error trouble => rfl
    | ok filter => rfl

theorem loads_iff {found : Option SavedFilter} : store.Loads name machine found ↔
    FilterName.fault? name = none ∧ store.loaded name
      ((machine.locate (store.documentPath name)).bind machine.tree.read) = .ok found := by
  unfold Loads
  cases legal : FilterName.fault? name with
  | some fault =>
    rw [load, legal]
    exact ⟨nofun, nofun⟩
  | none =>
    rw [run_load_fst legal, Machine.run_read_obliging]
    exact (and_iff_right rfl).symm

theorem Loads.earlier {found : Option SavedFilter} (loads : store.Loads name after found)
    (untouched : machine.Untouched after) : store.Loads name machine found := by
  rw [loads_iff, Machine.locate, untouched.tree, untouched.here] at loads
  exact loads_iff.mpr loads

/-- What a machine gives for a name is what is there, unless a request has failed as if the file
were missing. -/
theorem loads_or_missing {found : Option SavedFilter}
    (ran : ((store.load name : StateM Machine _).run machine).1 = .ok found) :
    store.Loads name machine found ∨ found = none ∧ ¬ machine.Truthful := by
  cases legal : FilterName.fault? name with
  | some fault =>
    rw [load, legal] at ran
    cases ran
  | none =>
    rw [run_load_fst legal] at ran
    rcases machine.read_cases (store.documentPath name) with
      ⟨fault, left, failed, member⟩ | answer
    · right
      rw [failed, loaded, Except.bind] at ran
      dsimp only at ran
      split_ifs at ran with missing
      · cases ran
        exact ⟨rfl, fun truthful => truthful left (missing ▸ member)⟩
    · exact .inl (loads_iff.mpr ⟨legal, answer ▸ ran⟩)

theorem loads_of_run {found : Option SavedFilter} (truthful : machine.Truthful)
    (ran : ((store.load name : StateM Machine _).run machine).1 = .ok found) :
    store.Loads name machine found :=
  (loads_or_missing ran).resolve_right fun missing => missing.2 truthful

theorem loads_some_of_run {filter : SavedFilter}
    (ran : ((store.load name : StateM Machine _).run machine).1 = .ok (some filter)) :
    store.Loads name machine (some filter) :=
  (loads_or_missing ran).resolve_right fun missing => nomatch missing.1

theorem loads_of_document {place : Location} {saved : SavedFilter}
    (legal : FilterName.fault? name = none) (recoverable : saved.Recoverable)
    (found : machine.locate (store.documentPath name) = .ok place)
    (content : machine.tree.get? place = some (.file (octets saved.document))) :
    store.Loads name machine (some saved) := by
  have decoded : Host.decoded (octets saved.document) = .ok saved.document := by
    rw [Host.decoded, textOf?_octets]
  have read : SavedFilter.ofDocument saved.document = .ok saved := by
    rw [SavedFilter.ofDocument_eq]
    exact Json.whole_of_reads (recoverable.reads_toJson (by decide))
  refine loads_iff.mpr ⟨legal, ?_⟩
  rw [found, Except.bind, Tree.read, content, loaded, Except.bind, decoded]
  dsimp only
  rw [read]

theorem Loads.dated {saved : SavedFilter} (loads : store.Loads name machine (some saved)) :
    ∀ instant ∈ saved.createdAt, instant.Dated := by
  obtain ⟨-, found⟩ := loads_iff.mp loads
  unfold loaded at found
  split at found
  · split_ifs at found
    cases found
  · split at found
    · cases found
    · next read =>
      cases found
      exact (SavedFilter.ofDocument_gives _ _ read).1

end Store

end LogSieve
