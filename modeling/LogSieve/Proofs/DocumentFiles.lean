import LogSieve.Proofs.DocumentNames
import LogSieve.Proofs.MachineRequests
import LogSieve.Proofs.Utf8
import LogSieve.Store

/-! The files of saved filters. A legal name gives its document and its draft a file name that every
file system takes, so both stand right in the directory of the store. No two names share a document,
no draft is the document of any name, and the listing gives back the name of a document and nothing
for a draft. -/

namespace LogSieve

namespace Text

theorem length_octets (text : String) : (octets text).length = octetCount text.toList := by
  rw [octets_eq_flatMap]
  induction text.toList with
  | nil => rfl
  | cons c rest ih => simp [octetCount, ih]

end Text

open Files Text

namespace FilterName

/-- A name for a file on every file system: one step of a path, not too long, and without separators
and control characters. -/
structure IsFileName (name : String) : Prop extends Path.IsEntry name where
  short : (octets name).length ≤ 255
  plain : ∀ c ∈ name.toList, isControl c = false ∧ c ≠ '/' ∧ c ≠ '\\'

theorem plain_of_not_isIllegal {c : Char} (legal : isIllegal c = false) :
    isControl c = false ∧ c ≠ '/' ∧ c ≠ '\\' := by
  simp [isIllegal] at legal
  tauto

theorem isFileName_append {name ending : String} (fit : Fit name) (extension : Extension ending)
    (clean : ending.toList.any isIllegal = false) : IsFileName (name ++ ending) where
  toIsEntry := isEntry_append fit extension
  short := by
    rw [length_octets]
    exact octetCount_append_le fit extension
  plain c member := by
    have legal : ∀ c ∈ ending.toList, isIllegal c = false := by simpa using clean
    rw [String.toList_append, List.mem_append] at member
    exact plain_of_not_isIllegal (member.elim (fit.plain c) (legal c))

theorem splitName_draft (fit : Fit name) :
    Path.splitName (name ++ ".json.tmp") = (name ++ ".json", some "tmp") := by
  have given : name.toList ++ ".json".toList ≠ [] := by simp [fit.given]
  have split := Path.splitName_append given (by decide : '.' ∉ "tmp".toList)
  have same : String.ofList (name.toList ++ ".json".toList ++ '.' :: "tmp".toList) =
      name ++ ".json.tmp" := String.toList_injective (by simp)
  have stem : String.ofList (name.toList ++ ".json".toList) = name ++ ".json" :=
    String.toList_injective (by simp)
  rw [same, stem, String.ofList_toList] at split
  exact split

end FilterName

namespace Files.Path

variable {directory entry other : String}

structure Below (directory path entry : String) : Prop where
  steps : Path.steps path = Path.steps directory ++ [entry]
  absolute : isAbsolute path = isAbsolute directory
  file : endsInSlash path = false
  child : ∀ (tree : Tree) here place, tree.locate here path = .ok place →
    ∃ above, tree.walk (Tree.start here directory) (Path.steps directory) = .ok above ∧
      tree.get? above = some .directory ∧ place = above ++ [entry]

theorem below_join (directory : String) (isEntry : IsEntry entry) :
    Below directory (join directory entry) entry where
  steps := steps_join directory isEntry
  absolute := isAbsolute_join directory isEntry
  file := endsInSlash_join directory isEntry
  child _ _ _ := Tree.above_of_locate_join isEntry

theorem join_injective (isEntry : IsEntry entry) (isOther : IsEntry other)
    (same : join directory entry = join directory other) : entry = other := by
  have steps := congrArg Path.steps same
  simpa [steps_join directory isEntry, steps_join directory isOther] using steps

theorem entry_eq_of_locate {tree : Tree} {here place : Location} (isEntry : IsEntry entry)
    (isOther : IsEntry other) (found : tree.locate here (join directory entry) = .ok place)
    (foundOther : tree.locate here (join directory other) = .ok place) : entry = other := by
  obtain ⟨above, reached, -, same⟩ := Tree.above_of_locate_join isEntry found
  obtain ⟨aboveOther, reachedOther, -, sameOther⟩ := Tree.above_of_locate_join isOther foundOther
  cases reached.symm.trans reachedOther
  simpa using same.symm.trans sameOther

end Files.Path

namespace Store

def documentName? (store : Store) (machine : Machine) (entry : String) : Option String :=
  if machine.isFile (Path.join store.directory entry) &&
      (Path.splitName entry).2 == some "json" then some (Path.splitName entry).1
  else none

theorem run_documentNames_fst (store : Store) (entries : List String) (machine : Machine) :
    ((store.documentNames entries : StateM Machine _).run machine).1 =
      entries.filterMap (store.documentName? machine) := by
  induction entries generalizing machine with
  | nil => rfl
  | cons entry rest ih =>
    have looked : (Host.isFile (Path.join store.directory entry) : StateM Machine _).run machine =
        (machine.isFile (Path.join store.directory entry), machine) := rfl
    rw [documentNames, Machine.run_bind_of_run looked]
    by_cases document : (machine.isFile (Path.join store.directory entry) &&
        (Path.splitName entry).2 == some "json") = true
    · have kept : store.documentName? machine entry = some (Path.splitName entry).1 :=
        if_pos document
      rw [if_pos document, List.filterMap_cons_some kept]
      exact congrArg (List.cons _) (ih machine)
    · have passed : store.documentName? machine entry = none := if_neg document
      rw [if_neg document, List.filterMap_cons_none passed]
      -- The note changes the reports, which no look at a file depends on.
      exact ih _

/-- A name in the directory of a store: where its document and its draft stand, and what the listing
makes of them. -/
structure Filed (store : Store) (name : String) : Prop where
  documentName : FilterName.IsFileName (name ++ ".json")
  draftName : FilterName.IsFileName (name ++ ".json.tmp")
  document : Path.Below store.directory (store.documentPath name) (name ++ ".json")
  draft : Path.Below store.directory (store.draftPath name) (name ++ ".json.tmp")
  documentParts : Path.splitName (name ++ ".json") = (name, some "json")
  draftParts : Path.splitName (name ++ ".json.tmp") = (name ++ ".json", some "tmp")
  listed : ∀ (machine : Machine) entries,
    ((store.documentNames ([name ++ ".json", name ++ ".json.tmp"] ++ entries) :
        StateM Machine _).run machine).1 =
      (if machine.isFile (store.documentPath name) then [name] else []) ++
        ((store.documentNames entries : StateM Machine _).run machine).1

theorem filed_of_fit {name : String} (store : Store) (fit : FilterName.Fit name) :
    store.Filed name where
  documentName := FilterName.isFileName_append fit FilterName.extension_json (by decide)
  draftName := FilterName.isFileName_append fit FilterName.extension_draft (by decide)
  document := Path.below_join _ (FilterName.isEntry_append fit FilterName.extension_json)
  draft := Path.below_join _ (FilterName.isEntry_append fit FilterName.extension_draft)
  documentParts := FilterName.splitName_document fit
  draftParts := FilterName.splitName_draft fit
  listed machine entries := by
    have document : store.documentName? machine (name ++ ".json") =
        if machine.isFile (store.documentPath name) then some name else none := by
      rw [documentName?, FilterName.splitName_document fit, beq_self_eq_true, Bool.and_true]
      rfl
    have draft : store.documentName? machine (name ++ ".json.tmp") = none := by
      rw [documentName?, FilterName.splitName_draft fit, if_neg (by simp)]
    rw [run_documentNames_fst, run_documentNames_fst, List.filterMap_append]
    cases isFile : machine.isFile (store.documentPath name) <;> simp [isFile, document, draft]

/-- Two legal names and one store: each has its files right in the directory, of which the listing
gives back the name of the document. The documents are different, by their paths and wherever these
lead, unless the names are the same; and the draft of one name is never the document of another. -/
theorem filed_apart (store : Store) {name other : String} (legal : FilterName.fault? name = none)
    (legalOther : FilterName.fault? other = none) :
    store.Filed name ∧
      (store.documentPath name = store.documentPath other → name = other) ∧
      store.draftPath name ≠ store.documentPath other ∧
      ∀ (machine : Machine) place, machine.locate (store.documentPath other) = .ok place →
        (machine.locate (store.documentPath name) = .ok place → name = other) ∧
        machine.locate (store.draftPath name) ≠ .ok place := by
  have fit := FilterName.fit_of_legal legal
  have document := FilterName.isEntry_append fit FilterName.extension_json
  have draft := FilterName.isEntry_append fit FilterName.extension_draft
  have documentOther :=
    FilterName.isEntry_append (FilterName.fit_of_legal legalOther) FilterName.extension_json
  refine ⟨store.filed_of_fit fit, fun same => ?_, fun same => ?_, fun machine place found => ?_⟩
  · exact FilterName.document_injective (Path.join_injective document documentOther same)
  · exact FilterName.document_ne_draft (Path.join_injective draft documentOther same).symm
  · refine ⟨fun foundName => ?_, fun foundDraft => ?_⟩
    · exact FilterName.document_injective
        (Path.entry_eq_of_locate document documentOther foundName found)
    · exact FilterName.document_ne_draft
        (Path.entry_eq_of_locate draft documentOther foundDraft found).symm

/-- A name that looks like the draft of another one has files of its own. -/
theorem filed_apart_report :
    let store : Store := ⟨"filters", ⟨false⟩⟩
    let name := ".report.json.tmp"
    let other := ".report"
    FilterName.fault? name = none ∧ FilterName.fault? other = none ∧ store.Filed name ∧
      store.documentPath name ≠ store.documentPath other ∧
      store.draftPath name ≠ store.documentPath other ∧
      store.draftPath other ≠ store.documentPath name := by
  intro store name other
  have legal : FilterName.fault? name = none := by decide
  have legalOther : FilterName.fault? other = none := by decide
  obtain ⟨filed, apart, draftApart, -⟩ := filed_apart store legal legalOther
  obtain ⟨-, -, otherDraftApart, -⟩ := filed_apart store legalOther legal
  exact ⟨legal, legalOther, filed, fun same => absurd (apart same) (by decide), draftApart,
    otherDraftApart⟩

end Store

end LogSieve
