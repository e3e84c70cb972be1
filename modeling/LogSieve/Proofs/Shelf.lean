import LogSieve.Proofs.DocumentNames
import LogSieve.Proofs.MachineRequests
import LogSieve.Proofs.Operands
import LogSieve.Store
import Mathlib.Logic.Function.Basic

/-! A directory of documents as a map from names to filters. The directory holds one file for every
name in the map, which is the document of its filter, and nothing else; putting, replacing and
removing a document changes the map at its name. -/

namespace LogSieve

open Files Text

abbrev Shelf := String → Option SavedFilter

namespace Shelf

def bare : Shelf := fun _ => none

end Shelf

namespace Store

structure Accepts (store : Store) (name : String) (saved : SavedFilter) : Prop where
  legal : FilterName.fault? name = none
  named : saved.name = name
  valid : (store.review saved).valid = true
  storable : saved.Storable

/-- No path of a document is one that no tree has. -/
def Roomy (store : Store) : Prop :=
  ∀ name, FilterName.fault? name = none → Tree.pathFault? (store.draftPath name) = none

/-- Every request works, and the directory of the store stands at the place and holds the documents
of the shelf. -/
structure Holds (store : Store) (place : Location) (shelf : Shelf) (machine : Machine) : Prop where
  willing : machine.turns = []
  roomy : store.Roomy
  found : machine.locate store.directory = .ok place
  stands : machine.tree.get? place = some .directory
  entries : ∀ entry node, machine.tree.get? (place ++ [entry]) = some node ↔
    ∃ name saved, shelf name = some saved ∧ entry = name ++ ".json" ∧
      node = .file (octets saved.document)
  single : (machine.tree.children place).Nodup
  accepted : ∀ name saved, shelf name = some saved → store.Accepts name saved

section Paths

variable {store : Store} {place : Location} {machine : Machine} {name : String}

theorem Roomy.document (roomy : store.Roomy) (legal : FilterName.fault? name = none) :
    Tree.pathFault? (store.documentPath name) = none :=
  FilterName.pathFault?_document (FilterName.fit_of_legal legal) (roomy name legal)

theorem roomy_of_short (short : octetCount store.directory.toList + 256 ≤ Tree.pathLimit)
    (clean : '\x00' ∉ store.directory.toList) : store.Roomy := by
  intro name legal
  have fit := FilterName.fit_of_legal legal
  have isEntry := FilterName.isEntry_append fit FilterName.extension_draft
  have count : octetCount (name ++ ".json.tmp").toList ≤ 255 :=
    FilterName.octetCount_append_le fit FilterName.extension_draft
  have noMark : '\x00' ∉ (name ++ ".json.tmp").toList := by
    rw [String.toList_append, List.mem_append]
    rintro (inName | inEnding)
    · exact Bool.false_ne_true ((fit.plain _ inName).symm.trans (by decide))
    · exact absurd inEnding (by decide)
  have path : octetCount (store.draftPath name).toList ≤ Tree.pathLimit ∧
      '\x00' ∉ (store.draftPath name).toList := by
    unfold draftPath
    rcases Path.join_cases store.directory isEntry.whole with ⟨-, joined⟩ | ⟨front, given, joined⟩
    · rw [joined]
      exact ⟨by omega, noMark⟩
    · have inside : octetCount front ≤ octetCount store.directory.toList ∧ '\x00' ∉ front := by
        rcases given with ended | ⟨plain, -⟩
        · rw [ended, octetCount_append]
          exact ⟨Nat.le_add_right _ _, fun mark => clean (ended ▸ List.mem_append_left _ mark)⟩
        · exact plain ▸ ⟨Nat.le_refl _, clean⟩
      have slash : '/'.utf8Size = 1 := by decide
      rw [joined, octetCount_append, octetCount, slash]
      refine ⟨by omega, fun mark => ?_⟩
      rcases List.mem_append.mp mark with inFront | behind
      · exact inside.2 inFront
      · exact noMark ((List.mem_cons.mp behind).resolve_left (by decide))
  have given : (store.draftPath name).isEmpty = false := by
    simpa [draftPath] using Path.join_ne_empty store.directory isEntry
  rw [Tree.pathFault?, given, if_neg Bool.false_ne_true,
    if_neg (by simpa using path.2), if_neg (Nat.not_lt.mpr path.1)]

theorem locate_entry {ending : String} (extension : FilterName.Extension ending)
    (fit : FilterName.Fit name)
    (free : Tree.pathFault? (Path.join store.directory (name ++ ending)) = none)
    (found : machine.locate store.directory = .ok place)
    (stands : machine.tree.get? place = some .directory) :
    machine.locate (Path.join store.directory (name ++ ending)) = .ok (place ++ [name ++ ending]) :=
  Tree.locate_join_of_walk (FilterName.isEntry_append fit extension) free
    (FilterName.octetCount_append_le fit extension) (Tree.walk_of_locate found) stands

end Paths

namespace Holds

variable {store : Store} {place : Location} {shelf : Shelf} {machine after : Machine}
  {name : String}

theorem locate_document (holds : store.Holds place shelf machine)
    (legal : FilterName.fault? name = none) :
    machine.locate (store.documentPath name) = .ok (place ++ [name ++ ".json"]) :=
  locate_entry FilterName.extension_json (FilterName.fit_of_legal legal)
    (holds.roomy.document legal) holds.found holds.stands

theorem locate_draft (holds : store.Holds place shelf machine)
    (legal : FilterName.fault? name = none) :
    machine.locate (store.draftPath name) = .ok (place ++ [name ++ ".json.tmp"]) :=
  locate_entry FilterName.extension_draft (FilterName.fit_of_legal legal)
    (holds.roomy name legal) holds.found holds.stands

theorem get?_document (holds : store.Holds place shelf machine) (name : String) :
    machine.tree.get? (place ++ [name ++ ".json"]) =
      (shelf name).map fun saved => .file (octets saved.document) := by
  cases known : shelf name with
  | some saved => exact (holds.entries _ _).mpr ⟨name, saved, known, rfl, rfl⟩
  | none =>
    refine Option.eq_none_iff_forall_ne_some.mpr fun node there => ?_
    obtain ⟨other, saved, stored, same, -⟩ := (holds.entries _ _).mp there
    rw [← FilterName.document_injective same, known] at stored
    cases stored

theorem get?_draft (holds : store.Holds place shelf machine) (name : String) :
    machine.tree.get? (place ++ [name ++ ".json.tmp"]) = none := by
  refine Option.eq_none_iff_forall_ne_some.mpr fun node there => ?_
  obtain ⟨other, saved, -, same, -⟩ := (holds.entries _ _).mp there
  exact FilterName.document_ne_draft same.symm

theorem get?_of_bare (holds : store.Holds place Shelf.bare machine) (entry : String) :
    machine.tree.get? (place ++ [entry]) = none := by
  refine Option.eq_none_iff_forall_ne_some.mpr fun node there => ?_
  obtain ⟨_, _, impossible, _⟩ := (holds.entries _ _).mp there
  cases impossible

theorem noted (holds : store.Holds place shelf machine) (reports : List Report) :
    store.Holds place shelf { machine with reports := reports } :=
  ⟨holds.willing, holds.roomy, holds.found, holds.stands, holds.entries, holds.single,
    holds.accepted⟩

theorem update (holds : store.Holds place shelf machine) {value : Option SavedFilter}
    (willing : after.turns = []) (here : after.here = machine.here)
    (others : ∀ other, other ≠ place ++ [name ++ ".json"] →
      after.tree.get? other = machine.tree.get? other)
    (changed : after.tree.get? (place ++ [name ++ ".json"]) =
      value.map fun saved => .file (octets saved.document))
    (single : (after.tree.children place).Nodup)
    (accepted : ∀ saved ∈ value, store.Accepts name saved) :
    store.Holds place (Function.update shelf name value) after := by
  have noDirectory : machine.tree.get? (place ++ [name ++ ".json"]) ≠ some .directory := by
    rw [holds.get?_document]
    cases shelf name <;> simp
  have keeps : Machine.Keeps (fun _ => True) machine after :=
    .of_place here noDirectory others trivial
  refine ⟨willing, holds.roomy, keeps.locate holds.found, keeps.directories place holds.stands,
    fun entry node => ?_, single, fun other saved stored => ?_⟩
  · by_cases same : entry = name ++ ".json"
    · subst same
      rw [changed, Option.map_eq_some_iff]
      constructor
      · rintro ⟨saved, given, rfl⟩
        exact ⟨name, saved, by rw [Function.update_self]; exact given, rfl, rfl⟩
      · rintro ⟨other, saved, stored, same, rfl⟩
        rw [← FilterName.document_injective same, Function.update_self] at stored
        exact ⟨saved, stored, rfl⟩
    · have apart : place ++ [entry] ≠ place ++ [name ++ ".json"] := by simpa using same
      rw [others _ apart, holds.entries]
      refine exists₂_congr fun other saved => and_congr_left fun ⟨given, _⟩ => ?_
      have different : other ≠ name := fun equal => same (equal ▸ given)
      rw [Function.update_of_ne different]
  · by_cases same : other = name
    · subst same
      rw [Function.update_self] at stored
      exact accepted saved stored
    · rw [Function.update_of_ne same] at stored
      exact holds.accepted other saved stored

theorem run_makeDirectories (holds : store.Holds place shelf machine) :
    (Host.makeDirectories store.directory : StateM Machine _).run machine = (.ok (), machine) := by
  have there : machine.makeDirectories store.directory = (.ok (), machine.tree) := by
    rw [Machine.makeDirectories_eq (Tree.pathFault?_of_locate holds.found)]
    refine Tree.makeDirectories_of_directory ?_ holds.stands
    rw [List.reverse_reverse]
    exact Tree.walk_of_locate holds.found
  have ran : (Host.makeDirectories store.directory : StateM Machine _).run machine =
      ((machine.makeDirectories store.directory).1,
        { machine with tree := (machine.makeDirectories store.directory).2 }) :=
    Machine.run_request holds.willing
  rw [ran, there]

theorem run_readText (holds : store.Holds place shelf machine)
    (legal : FilterName.fault? name = none) :
    (Host.readText (store.documentPath name) : StateM Machine _).run machine =
      (match shelf name with
        | some saved => .ok saved.document
        | none => .error .missing, machine) := by
  have read : (Host.read (store.documentPath name) : StateM Machine _).run machine =
      ((machine.locate (store.documentPath name)).bind machine.tree.read, machine) :=
    Machine.run_look holds.willing
  rw [holds.locate_document legal, Except.bind, Tree.read, holds.get?_document] at read
  rw [Machine.run_readText read]
  cases shelf name with
  | none => rfl
  | some saved =>
    have decoded : Host.decoded (octets saved.document) = .ok saved.document := by
      rw [Host.decoded, textOf?_octets]
    rw [Option.map_some, Except.bind, decoded]

theorem run_remove_none (holds : store.Holds place shelf machine)
    (legal : FilterName.fault? name = none) (unknown : shelf name = none) :
    (Host.remove (store.documentPath name) : StateM Machine _).run machine =
      (.error .missing, machine) := by
  refine Machine.run_change_error holds.willing ?_
  refine (congrArg (Except.bind · machine.tree.remove) (holds.locate_document legal)).trans ?_
  rw [Except.bind, Tree.remove, holds.get?_document, unknown]
  rfl

theorem run_remove_some (holds : store.Holds place shelf machine)
    (legal : FilterName.fault? name = none) {saved : SavedFilter}
    (known : shelf name = some saved) :
    ∃ after, (Host.remove (store.documentPath name) : StateM Machine _).run machine =
        (.ok (), after) ∧ store.Holds place (Function.update shelf name none) after := by
  have filled : place ++ [name ++ ".json"] ≠ [] := by simp
  refine ⟨{ machine with tree := machine.tree.erase (place ++ [name ++ ".json"]) },
    Machine.run_change holds.willing ?_, ?_⟩
  · refine (congrArg (Except.bind · machine.tree.remove) (holds.locate_document legal)).trans ?_
    rw [Except.bind, Tree.remove, holds.get?_document, known]
    rfl
  · exact holds.update holds.willing rfl (fun other apart => Tree.get?_erase_of_ne _ apart)
      (Tree.get?_erase_self _ filled)
      ((Tree.children_erase_sublist _ _ _).nodup holds.single) nofun

theorem run_replaceDocument (holds : store.Holds place shelf machine) {saved : SavedFilter}
    (accepted : store.Accepts name saved) :
    ∃ after, (replaceDocument (store.draftPath name) (store.documentPath name) saved.document :
        StateM Machine _).run machine = (.ok (), after) ∧
      store.Holds place (Function.update shelf name (some saved)) after := by
  have absent := holds.get?_draft name
  have known := holds.get?_document name
  have apart : place ++ [name ++ ".json"] ≠ place ++ [name ++ ".json.tmp"] := by simp
  let content := octets saved.document
  let written := machine.tree.put (place ++ [name ++ ".json.tmp"]) (.file content)
  let replaced := machine.tree.replaced place (name ++ ".json.tmp") (name ++ ".json") content
  have keeps : Machine.Keeps (fun _ => True) machine { machine with tree := written } :=
    .of_place rfl (by simp [absent]) (fun other different => Tree.get?_put_of_ne _ _ different)
      trivial
  have writes : (Host.writeText (store.draftPath name) saved.document : StateM Machine _).run
      machine = (.ok (), { machine with tree := written }) := by
    refine Machine.run_change holds.willing
      (bind_eq_ok.mpr ⟨_, holds.locate_draft accepted.legal, ?_⟩)
    rw [Tree.write, absent]
  have renames : (Host.rename (store.draftPath name) (store.documentPath name) :
      StateM Machine _).run { machine with tree := written } =
        (.ok (), { machine with tree := replaced }) := by
    refine Machine.run_change holds.willing
      (bind_eq_ok.mpr ⟨_, keeps.locate (holds.locate_draft accepted.legal),
        bind_eq_ok.mpr ⟨_, keeps.locate (holds.locate_document accepted.legal), ?_⟩⟩)
    rw [Tree.rename, Tree.get?_put_self _ _ (by simp), Tree.get?_put_of_ne _ _ apart, known]
    cases shelf name <;> rfl
  refine ⟨{ machine with tree := replaced },
    (Machine.run_bind_of_run writes).trans (Machine.run_bind_of_run renames), ?_⟩
  exact holds.update holds.willing rfl (fun other => Tree.get?_replaced_of_ne absent)
    (Tree.get?_put_self _ _ (by simp)) (Tree.nodup_children_replaced holds.single)
    fun other same => Option.some.inj same ▸ accepted

end Holds

end Store

end LogSieve
