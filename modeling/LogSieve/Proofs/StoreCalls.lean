import LogSieve.Proofs.Saving
import LogSieve.Proofs.Shelf
import LogSieve.Proofs.Utf8
import Mathlib.Data.List.Nodup
import Mathlib.Data.String.Basic

/-! A store is a map from names to filters, as long as its directory is its own and the machine does
what it is asked. Whatever calls are made one after the other, each is answered from the map, and
the documents in the directory are those of the map. -/

namespace LogSieve

open Files Text

inductive Call where
  | save (now : Time.Instant) (cancelled : Bool) (filter : SavedFilter)
  | load (name : String)
  | delete (name : String)
  | names

inductive Answer where
  | saved (saving : Saving)
  | loaded (found : Except StoreError (Option SavedFilter))
  | deleted (existed : Except StoreError Bool)
  | named (names : Except StoreError (List String))

namespace Call

variable {m : Type → Type} [Monad m] [Host m]

def run (store : Store) : Call → m Answer
  | save now cancelled filter => return .saved (← store.save now cancelled filter)
  | load name => return .loaded (← store.load name)
  | delete name => return .deleted (← store.delete name)
  | names => return .named (← store.names)

def Timely : Call → Prop
  | save now _ filter => now.Shown ∧ ∀ instant ∈ filter.createdAt, instant.Shown
  | _ => True

end Call

namespace Shelf

def after (store : Store) (shelf : Shelf) : Call → Shelf
  | .save now cancelled filter =>
    if (store.review filter).valid && !cancelled then
      Function.update shelf filter.name (some (filter.stamped now))
    else shelf
  | .delete name =>
    match FilterName.fault? name with
    | some _ => shelf
    | none => Function.update shelf name none
  | _ => shelf

def lookUp (name : String) (answer : α) : Except StoreError α :=
  match FilterName.fault? name with
  | some fault => .error (.badName name fault)
  | none => .ok answer

def saving (store : Store) (now : Time.Instant) (cancelled : Bool) (filter : SavedFilter) :
    Saving :=
  if (store.review filter).valid then
    if cancelled then ⟨.error .cancelled, filter⟩
    else ⟨.ok (store.documentPath filter.name), filter.stamped now⟩
  else ⟨.error (.rejected (store.review filter)), filter⟩

/-- The answer that a shelf gives to a call. -/
def Answers (store : Store) (shelf : Shelf) : Call → Answer → Prop
  | .save now cancelled filter, .saved found => found = saving store now cancelled filter
  | .load name, .loaded found => found = lookUp name (shelf name)
  | .delete name, .deleted existed => existed = lookUp name (shelf name).isSome
  | .names, .named found => ∃ names, found = .ok names ∧
      names.Pairwise (fun first second => octets first < octets second) ∧
      ∀ name, name ∈ names ↔ (shelf name).isSome = true
  | _, _ => False

def Plays (store : Store) : Shelf → List Call → List Answer → Prop
  | _, [], [] => True
  | shelf, call :: calls, answer :: answers =>
    shelf.Answers store call answer ∧ Plays store (shelf.after store call) calls answers
  | _, _, _ => False

end Shelf

namespace Store

/-- A store that has just been opened: every request works, its directory is there or can be made,
and then nothing is in it. -/
structure Fresh (store : Store) (machine : Machine) : Prop where
  willing : machine.turns = []
  roomy : store.Roomy
  made : ((Host.makeDirectories store.directory : StateM Machine _).run machine).1 = .ok ()
  empty : ((Host.names store.directory : StateM Machine _).run
    ((Host.makeDirectories store.directory : StateM Machine _).run machine).2).1 = .ok []

structure Absent (store : Store) (machine : Machine) : Prop where
  fresh : store.Fresh machine
  missing : machine.tree.IsMissing (Tree.start machine.here store.directory)
    (Path.steps store.directory)

/-- The machine holds the shelf, or the shelf is bare and the directory still to be made. -/
def Stands (store : Store) (shelf : Shelf) (machine : Machine) : Prop :=
  (shelf = Shelf.bare ∧ store.Absent machine) ∨ ∃ place, store.Holds place shelf machine

section Opening

variable {store : Store} {machine : Machine}

theorem run_hostNames (store : Store) (machine : Machine) (willing : machine.turns = []) :
    (Host.names store.directory : StateM Machine _).run machine =
      ((machine.locate store.directory).bind machine.tree.names, machine) :=
  Machine.run_look willing

theorem run_makeDirectories (willing : machine.turns = []) :
    (Host.makeDirectories store.directory : StateM Machine _).run machine =
      ((machine.makeDirectories store.directory).1,
        { machine with tree := (machine.makeDirectories store.directory).2 }) :=
  Machine.run_request willing

theorem holds_bare {place : Location} (willing : machine.turns = []) (roomy : store.Roomy)
    (found : machine.locate store.directory = .ok place)
    (stands : machine.tree.get? place = some .directory)
    (empty : ∀ entry, machine.tree.get? (place ++ [entry]) = none) :
    store.Holds place Shelf.bare machine where
  willing := willing
  roomy := roomy
  found := found
  stands := stands
  entries entry node := by
    rw [empty]
    exact ⟨nofun, fun ⟨_, _, impossible, _⟩ => by cases impossible⟩
  single := by
    have none : machine.tree.children place = [] := by
      refine List.eq_nil_iff_forall_not_mem.mpr fun entry member => ?_
      obtain ⟨node, there⟩ := Tree.mem_children.mp member
      rw [empty] at there
      cases there
    rw [none]
    exact List.nodup_nil
  accepted _ _ impossible := by cases impossible

theorem Fresh.noted (fresh : store.Fresh machine) (reports : List Report) :
    store.Fresh { machine with reports := reports } where
  willing := fresh.willing
  roomy := fresh.roomy
  made := by
    rw [Machine.quiet_makeDirectories]
    exact fresh.made
  empty := by
    rw [Machine.quiet_makeDirectories, Machine.quiet_names]
    exact fresh.empty

theorem Fresh.makes (fresh : store.Fresh machine) :
    ∃ place made, (Host.makeDirectories store.directory : StateM Machine _).run machine =
        (.ok (), made) ∧ store.Holds place Shelf.bare made ∧
      made.here = machine.here ∧ Tree.Grown machine.tree made.tree := by
  obtain ⟨willing, roomy, worked, empty⟩ := fresh
  let made : Machine := { machine with tree := (machine.makeDirectories store.directory).2 }
  have ran : (Host.makeDirectories store.directory : StateM Machine _).run machine =
      ((machine.makeDirectories store.directory).1, made) := Machine.run_request willing
  rw [ran] at worked empty
  have listed := (congrArg Prod.fst (run_hostNames store made willing)).symm.trans empty
  obtain ⟨place, found, named⟩ := bind_eq_ok.mp listed
  obtain ⟨stands, none⟩ := Tree.names_eq_ok named
  refine ⟨place, made, ran.trans (congrArg (·, made) worked), holds_bare willing roomy found stands
    fun entry => ?_, rfl, Machine.grown_makeDirectories _ _⟩
  refine Option.eq_none_iff_forall_ne_some.mpr fun node there => ?_
  have member := Tree.mem_children.mpr ⟨node, there⟩
  rw [← none] at member
  cases member

theorem Fresh.stands (fresh : store.Fresh machine) : store.Stands Shelf.bare machine := by
  obtain ⟨place, made, ran, holds, here, grown⟩ := fresh.makes
  have found := Tree.walk_of_locate holds.found
  rw [here] at found
  cases walked : machine.tree.walk (Tree.start machine.here store.directory)
      (Path.steps store.directory) with
  | error fault =>
    have worked : (machine.tree.makeDirectories (Tree.start machine.here store.directory)
        (Path.steps store.directory).reverse).1 = .ok () := by
      rw [← Machine.makeDirectories_eq (Tree.pathFault?_of_locate holds.found)]
      exact (congrArg Prod.fst (run_makeDirectories fresh.willing)).symm.trans fresh.made
    have missing := Tree.missing_of_makeDirectories worked
      ((congrArg _ (List.reverse_reverse _)).trans walked)
    exact .inl ⟨rfl, fresh, .inl (missing ▸ walked)⟩
  | ok old =>
    obtain rfl : old = place := Except.ok.inj
      ((Tree.walk_of_directories (fun _ => grown.directory) walked).symm.trans found)
    rcases grown old with same | ⟨absent, -⟩
    · refine .inr ⟨old, holds_bare fresh.willing fresh.roomy ?_ (same.symm.trans holds.stands) ?_⟩
      · exact Tree.locate_of_walk (Tree.pathFault?_of_locate holds.found) walked
          (same.symm.trans holds.stands)
      · exact fun entry => grown.none_of_none (holds.get?_of_bare entry)
    · exact .inl ⟨rfl, fresh, .inr ⟨old, walked, absent⟩⟩

end Opening

section Calls

variable {store : Store} {shelf : Shelf} {machine : Machine} {name : String}

theorem Absent.locate_document (absent : store.Absent machine)
    (legal : FilterName.fault? name = none) :
    machine.locate (store.documentPath name) = .error .missing := by
  have isEntry :=
    FilterName.isEntry_append (FilterName.fit_of_legal legal) FilterName.extension_json
  refine (Tree.locate_join isEntry (absent.fresh.roomy.document legal)).trans ?_
  rw [← Tree.walk_append]
  exact absent.missing.walk _ []

theorem Absent.run_readText (absent : store.Absent machine)
    (legal : FilterName.fault? name = none) :
    (Host.readText (store.documentPath name) : StateM Machine _).run machine =
      (.error .missing, machine) := by
  have read : (Host.read (store.documentPath name) : StateM Machine _).run machine =
      ((machine.locate (store.documentPath name)).bind machine.tree.read, machine) :=
    Machine.run_look absent.fresh.willing
  rw [absent.locate_document legal] at read
  exact Machine.run_readText read

theorem Absent.run_remove (absent : store.Absent machine)
    (legal : FilterName.fault? name = none) :
    (Host.remove (store.documentPath name) : StateM Machine _).run machine =
      (.error .missing, machine) := by
  refine Machine.run_change_error absent.fresh.willing ?_
  exact congrArg (Except.bind · machine.tree.remove) (absent.locate_document legal)

theorem Stands.run_readText (stands : store.Stands shelf machine)
    (legal : FilterName.fault? name = none) :
    (Host.readText (store.documentPath name) : StateM Machine _).run machine =
      (match shelf name with
        | some saved => .ok saved.document
        | none => .error .missing, machine) := by
  rcases stands with ⟨rfl, absent⟩ | ⟨place, holds⟩
  · exact absent.run_readText legal
  · exact holds.run_readText legal

theorem Stands.accepted (stands : store.Stands shelf machine) {saved : SavedFilter}
    (known : shelf name = some saved) : store.Accepts name saved := by
  rcases stands with ⟨rfl, -⟩ | ⟨place, holds⟩
  · cases known
  · exact holds.accepted name saved known

theorem Stands.noted (stands : store.Stands shelf machine) (reports : List Report) :
    store.Stands shelf { machine with reports := reports } := by
  rcases stands with ⟨bare, absent⟩ | ⟨place, holds⟩
  · exact .inl ⟨bare, absent.fresh.noted reports, absent.missing⟩
  · exact .inr ⟨place, holds.noted reports⟩

theorem run_noteDoubts {saved : SavedFilter} (accepted : store.Accepts name saved) :
    (store.noteDoubts name saved : StateM Machine _).run machine = (⟨⟩, machine) := by
  rw [noteDoubts, accepted.valid, accepted.named, if_neg (by decide), if_neg (not_not_intro rfl)]
  rfl

theorem run_load (stands : store.Stands shelf machine) (name : String) :
    (store.load name : StateM Machine _).run machine =
      (Shelf.lookUp name (shelf name), machine) := by
  cases legal : FilterName.fault? name with
  | some fault =>
    rw [load, Shelf.lookUp, legal]
    rfl
  | none =>
    rw [load, Shelf.lookUp, legal]
    refine (Machine.run_bind_of_run (stands.run_readText legal)).trans ?_
    cases known : shelf name with
    | none => rfl
    | some saved =>
      have accepted := stands.accepted known
      have read : SavedFilter.ofDocument saved.document = .ok saved := by
        rw [SavedFilter.ofDocument_eq]
        exact Json.whole_of_reads (SavedFilter.reads_toJson accepted.storable (by decide))
      dsimp only
      rw [read]
      exact Machine.run_bind_of_run (run_noteDoubts accepted)

theorem Stands.run_remove (stands : store.Stands shelf machine)
    (legal : FilterName.fault? name = none) :
    ∃ after, (Host.remove (store.documentPath name) : StateM Machine _).run machine =
        (match shelf name with
          | some _ => .ok ()
          | none => .error .missing, after) ∧
      store.Stands (Function.update shelf name none) after := by
  rcases stands with ⟨rfl, absent⟩ | ⟨place, holds⟩
  · exact ⟨machine, absent.run_remove legal, .inl ⟨Function.update_eq_self name Shelf.bare, absent⟩⟩
  · cases known : shelf name with
    | none =>
      have same : Function.update shelf name none = shelf := known ▸ Function.update_eq_self _ _
      exact ⟨machine, holds.run_remove_none legal known, .inr ⟨place, same.symm ▸ holds⟩⟩
    | some saved =>
      obtain ⟨after, ran, later⟩ := holds.run_remove_some legal known
      exact ⟨after, ran, .inr ⟨place, later⟩⟩

theorem run_delete (stands : store.Stands shelf machine) (name : String) :
    ∃ after, (store.delete name : StateM Machine _).run machine =
        (Shelf.lookUp name (shelf name).isSome, after) ∧
      store.Stands (shelf.after store (.delete name)) after := by
  cases legal : FilterName.fault? name with
  | some fault =>
    rw [delete, Shelf.lookUp, Shelf.after, legal]
    exact ⟨machine, rfl, stands⟩
  | none =>
    obtain ⟨after, removed, later⟩ := stands.run_remove legal
    rw [delete, Shelf.lookUp, Shelf.after, legal]
    cases known : shelf name with
    | none =>
      rw [known] at removed
      exact ⟨after, Machine.run_bind_of_run removed, later⟩
    | some saved =>
      rw [known] at removed
      exact ⟨_, Machine.run_bind_of_run removed, later.noted _⟩

theorem run_documentNames {place : Location} (holds : store.Holds place shelf machine)
    {entries : List String}
    (known : ∀ entry ∈ entries, ∃ name, (shelf name).isSome = true ∧ entry = name ++ ".json") :
    (store.documentNames entries : StateM Machine _).run machine =
      (entries.map fun entry => (Path.splitName entry).1, machine) := by
  induction entries with
  | nil => rfl
  | cons entry rest ih =>
    obtain ⟨name, stored, rfl⟩ := known entry List.mem_cons_self
    have later := ih fun other member => known other (List.mem_cons_of_mem _ member)
    obtain ⟨saved, stored⟩ := Option.isSome_iff_exists.mp stored
    have legal := (holds.accepted name saved stored).legal
    have isFile : machine.isFile (store.documentPath name) = true := by
      rw [Machine.isFile, holds.locate_document legal]
      dsimp only
      rw [Tree.read, holds.get?_document, stored]
      rfl
    have looked : (Host.isFile (store.documentPath name) : StateM Machine _).run machine =
        (true, machine) := congrArg (·, machine) isFile
    have split := FilterName.splitName_document (FilterName.fit_of_legal legal)
    rw [documentNames, List.map_cons, split]
    exact (Machine.run_bind_of_run looked).trans (Machine.run_bind_of_run later)

theorem documentNames_spec {place : Location} (holds : store.Holds place shelf machine) :
    ∃ names, (store.documentNames (machine.tree.children place) : StateM Machine _).run machine =
        (names, machine) ∧
      names.Nodup ∧ ∀ name, name ∈ names ↔ (shelf name).isSome = true := by
  have known : ∀ entry ∈ machine.tree.children place,
      ∃ name, (shelf name).isSome = true ∧ entry = name ++ ".json" := fun entry member => by
    obtain ⟨node, there⟩ := Tree.mem_children.mp member
    obtain ⟨name, saved, stored, same, -⟩ := (holds.entries entry node).mp there
    exact ⟨name, Option.isSome_iff_exists.mpr ⟨saved, stored⟩, same⟩
  have stem {name : String} (stored : (shelf name).isSome = true) :
      (Path.splitName (name ++ ".json")).1 = name := by
    obtain ⟨saved, stored⟩ := Option.isSome_iff_exists.mp stored
    have fit := FilterName.fit_of_legal (holds.accepted name saved stored).legal
    rw [FilterName.splitName_document fit]
  refine ⟨_, run_documentNames holds known, List.Nodup.map_on ?_ holds.single, fun name => ?_⟩
  · intro first firstMember second secondMember same
    obtain ⟨name, stored, rfl⟩ := known first firstMember
    obtain ⟨other, otherStored, rfl⟩ := known second secondMember
    rw [stem stored, stem otherStored] at same
    rw [same]
  · rw [List.mem_map]
    constructor
    · rintro ⟨entry, member, rfl⟩
      obtain ⟨name, stored, rfl⟩ := known entry member
      rw [stem stored]
      exact stored
    · intro stored
      refine ⟨name ++ ".json", Tree.mem_children.mpr ?_, stem stored⟩
      obtain ⟨saved, stored⟩ := Option.isSome_iff_exists.mp stored
      exact ⟨_, (holds.entries _ _).mpr ⟨name, saved, stored, rfl, rfl⟩⟩

theorem pairwise_octets_mergeSort {names : List String} (single : names.Nodup) :
    (names.mergeSort fun first second => decide (first ≤ second)).Pairwise
      fun first second => octets first < octets second := by
  let before (first second : String) : Bool := decide (first ≤ second)
  have sorted : (names.mergeSort before).Pairwise fun first second => before first second = true :=
    List.pairwise_mergeSort (fun _ _ _ => by simpa [before] using le_trans)
      (fun first second => by simpa [before] using le_total first second) names
  have different := (List.mergeSort_perm names before).nodup_iff.mpr single
  refine (sorted.and different).imp fun ⟨ordered, apart⟩ => ?_
  exact octets_lt (lt_of_le_of_ne (of_decide_eq_true ordered) apart)

theorem run_names (stands : store.Stands shelf machine) :
    ∃ names, (store.names : StateM Machine _).run machine = (.ok names, machine) ∧
      names.Pairwise (fun first second => octets first < octets second) ∧
      ∀ name, name ∈ names ↔ (shelf name).isSome = true := by
  rcases stands with ⟨rfl, absent⟩ | ⟨place, holds⟩
  · have free : Tree.pathFault? store.directory = none := by
      obtain ⟨place, made, -, holds, -, -⟩ := absent.fresh.makes
      exact Tree.pathFault?_of_locate holds.found
    have listed := run_hostNames store machine absent.fresh.willing
    rw [show (machine.locate store.directory).bind machine.tree.names = .error .missing from
      absent.missing.names free] at listed
    refine ⟨[], Machine.run_bind_of_run listed, List.Pairwise.nil, fun name => ?_⟩
    exact ⟨nofun, nofun⟩
  · have listed := run_hostNames store machine holds.willing
    rw [holds.found, Except.bind, Tree.names_of_directory holds.stands] at listed
    obtain ⟨names, found, single, members⟩ := documentNames_spec holds
    refine ⟨names.mergeSort fun first second => decide (first ≤ second),
      (Machine.run_bind_of_run listed).trans (Machine.run_bind_of_run found),
      pairwise_octets_mergeSort single, fun name => ?_⟩
    rw [List.mem_mergeSort]
    exact members name

theorem Stands.makes (stands : store.Stands shelf machine) :
    ∃ place made, (Host.makeDirectories store.directory : StateM Machine _).run machine =
      (.ok (), made) ∧ store.Holds place shelf made := by
  rcases stands with ⟨rfl, absent⟩ | ⟨place, holds⟩
  · obtain ⟨place, made, ran, holds, -, -⟩ := absent.fresh.makes
    exact ⟨place, made, ran, holds⟩
  · exact ⟨place, machine, holds.run_makeDirectories, holds⟩

theorem accepts_stamped {filter : SavedFilter} {now : Time.Instant}
    (valid : (store.review filter).valid = true) (shown : now.Shown)
    (first : ∀ instant ∈ filter.createdAt, instant.Shown) :
    store.Accepts filter.name (filter.stamped now) where
  legal := (SavedFilter.valid_iff.mp valid).1
  named := rfl
  valid := valid
  storable := {
    criteria := Review.storable_of_valid (SavedFilter.valid_iff.mp valid).2.2
    createdAt := fun instant same => by
      obtain rfl : filter.createdAt.getD now = instant := Option.some.inj same
      cases known : filter.createdAt with
      | none => exact shown
      | some instant => exact first instant known
    lastModified := fun instant same => Option.some.inj same ▸ shown }

theorem run_save (stands : store.Stands shelf machine) {now : Time.Instant} {cancelled : Bool}
    {filter : SavedFilter} (timely : (Call.save now cancelled filter).Timely) :
    ∃ after, (store.save now cancelled filter : StateM Machine _).run machine =
        (Shelf.saving store now cancelled filter, after) ∧
      store.Stands (shelf.after store (.save now cancelled filter)) after := by
  cases valid : (store.review filter).valid with
  | false =>
    rw [save_rejected valid, Shelf.saving, Shelf.after, valid]
    exact ⟨machine, rfl, stands⟩
  | true =>
    cases cancelled with
    | true =>
      obtain ⟨reports, ran⟩ := save_valid now true machine valid
      rw [ran, Shelf.saving, Shelf.after, valid]
      exact ⟨_, rfl, stands.noted reports⟩
    | false =>
      obtain ⟨reports, ran⟩ := save_attempted now machine valid
      obtain ⟨place, made, directory, holds⟩ := stands.makes
      obtain ⟨after, replaced, later⟩ :=
        holds.run_replaceDocument (accepts_stamped valid timely.1 timely.2)
      have attempted : (store.attempt (filter.stamped now) : StateM Machine _).run machine =
          ((.ok (), none), after) :=
        (Machine.run_bind_of_run directory).trans (Machine.run_bind_of_run replaced)
      rw [attempted] at ran
      rw [ran, Shelf.saving, Shelf.after, valid]
      exact ⟨_, rfl, .inr ⟨place, later.noted reports⟩⟩

theorem run_call (stands : store.Stands shelf machine) {call : Call} (timely : call.Timely) :
    ∃ answer after, (call.run store : StateM Machine _).run machine = (answer, after) ∧
      shelf.Answers store call answer ∧ store.Stands (shelf.after store call) after := by
  cases call with
  | save now cancelled filter =>
    obtain ⟨after, ran, later⟩ := run_save stands timely
    exact ⟨_, after, Machine.run_bind_of_run ran, rfl, later⟩
  | load name =>
    exact ⟨_, machine, Machine.run_bind_of_run (run_load stands name), rfl, stands⟩
  | delete name =>
    obtain ⟨after, ran, later⟩ := run_delete stands name
    exact ⟨_, after, Machine.run_bind_of_run ran, rfl, later⟩
  | names =>
    obtain ⟨names, ran, found⟩ := run_names stands
    exact ⟨_, machine, Machine.run_bind_of_run ran, ⟨names, rfl, found⟩, stands⟩

theorem run_calls {calls : List Call} (timely : ∀ call ∈ calls, call.Timely)
    (stands : store.Stands shelf machine) :
    ∃ answers after, (calls.mapM (Call.run store) : StateM Machine _).run machine =
        (answers, after) ∧
      shelf.Plays store calls answers ∧
      store.Stands (calls.foldl (Shelf.after store) shelf) after := by
  induction calls generalizing shelf machine with
  | nil => exact ⟨[], machine, rfl, trivial, stands⟩
  | cons call calls ih =>
    obtain ⟨now, later⟩ := List.forall_mem_cons.mp timely
    obtain ⟨answer, middle, ran, answered, stands⟩ := run_call stands now
    obtain ⟨answers, after, others, plays, stands⟩ := ih later stands
    refine ⟨answer :: answers, after, ?_, ⟨answered, plays⟩, stands⟩
    rw [List.mapM_cons]
    exact (Machine.run_bind_of_run ran).trans (Machine.run_bind_of_run others)

theorem Stands.sound (stands : store.Stands shelf machine) {entries : List String}
    (listed : ((Host.names store.directory : StateM Machine _).run machine).1 = .ok entries) :
    ∀ entry ∈ entries, ∃ name saved, entry = name ++ ".json" ∧ shelf name = some saved ∧
      ((store.load name : StateM Machine _).run machine).1 = .ok (some saved) ∧
      (store.review saved).valid = true ∧ saved.name = name := by
  have loads {name : String} {saved : SavedFilter} (known : shelf name = some saved) :
      ((store.load name : StateM Machine _).run machine).1 = .ok (some saved) := by
    rw [run_load stands, Shelf.lookUp, (stands.accepted known).legal, known]
  rcases stands with ⟨rfl, absent⟩ | ⟨place, holds⟩
  · obtain ⟨place, made, -, holds, -, -⟩ := absent.fresh.makes
    rw [run_hostNames store machine absent.fresh.willing] at listed
    have refused := absent.missing.names (Tree.pathFault?_of_locate holds.found)
    cases refused.symm.trans listed
  · rw [run_hostNames store machine holds.willing, holds.found, Except.bind,
      Tree.names_of_directory holds.stands] at listed
    obtain rfl := Except.ok.inj listed
    intro entry member
    obtain ⟨node, there⟩ := Tree.mem_children.mp member
    obtain ⟨name, saved, known, same, -⟩ := (holds.entries entry node).mp there
    have accepted := holds.accepted name saved known
    exact ⟨name, saved, same, known, loads known, accepted.valid, accepted.named⟩

end Calls

/-- Whatever is asked of a fresh store, its answers are those of a map from names to filters. Every
file that is in its directory then is the document of a name in the map: it loads as the filter
that the map has for the name, which passes its review and has that name itself. -/
theorem plays_shelf (store : Store) (machine : Machine) (fresh : store.Fresh machine)
    (calls : List Call) (timely : ∀ call ∈ calls, call.Timely) :
    let ran := (calls.mapM (Call.run store) : StateM Machine (List Answer)).run machine
    Shelf.bare.Plays store calls ran.1 ∧
      ∀ entries, ((Host.names store.directory : StateM Machine _).run ran.2).1 = .ok entries →
        ∀ entry ∈ entries, ∃ name saved, entry = name ++ ".json" ∧
          calls.foldl (Shelf.after store) Shelf.bare name = some saved ∧
          ((store.load name : StateM Machine _).run ran.2).1 = .ok (some saved) ∧
          (store.review saved).valid = true ∧ saved.name = name := by
  obtain ⟨answers, after, ran, plays, stands⟩ := run_calls timely fresh.stands
  rw [ran]
  exact ⟨plays, fun entries listed => stands.sound listed⟩

theorem plays_shelf_errors :
    let store : Store := ⟨"filters", ⟨false⟩⟩
    let machine := Machine.ofTree (Tree.empty.put ["home"] .directory) ["home"] []
    let noon : Time.Instant := ⟨1700000000, 250000000⟩
    let filter := SavedFilter.fresh "errors" [⟨"Level", "equals", .string "error"⟩]
    let calls : List Call := [.save noon false filter, .load "errors", .names, .load "a/b",
      .delete "errors", .load "errors", .save noon true filter]
    store.Fresh machine ∧ (∀ call ∈ calls, call.Timely) ∧
      let ran := (calls.mapM (Call.run store) : StateM Machine (List Answer)).run machine
      Shelf.bare.Plays store calls ran.1 ∧
      ∀ entries, ((Host.names store.directory : StateM Machine _).run ran.2).1 = .ok entries →
        ∀ entry ∈ entries, ∃ name saved, entry = name ++ ".json" ∧
          calls.foldl (Shelf.after store) Shelf.bare name = some saved ∧
          ((store.load name : StateM Machine _).run ran.2).1 = .ok (some saved) ∧
          (store.review saved).valid = true ∧ saved.name = name := by
  intro store machine noon filter calls
  have fresh : store.Fresh machine :=
    ⟨rfl, roomy_of_short (by decide) (by decide), by decide +kernel, by decide +kernel⟩
  have shown : noon.Shown := ⟨by decide, by decide⟩
  have timely : ∀ call ∈ calls, call.Timely := by
    have save (cancelled : Bool) : (Call.save noon cancelled filter).Timely := ⟨shown, nofun⟩
    simp only [calls, List.forall_mem_cons]
    exact ⟨save false, trivial, trivial, trivial, trivial, trivial, save true, nofun⟩
  exact ⟨fresh, timely, plays_shelf store machine fresh calls timely⟩

end Store

end LogSieve
