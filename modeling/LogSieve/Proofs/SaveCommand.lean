import LogSieve.Command.Run
import LogSieve.Proofs.Loading
import LogSieve.Proofs.Operands
import LogSieve.Proofs.Saving

/-! Saving criteria on the command line. The command loads the filter of the name, puts the criteria
into it and saves it, and a save goes by the name that stands in the filter. So the criteria stand
in the document of that name afterwards, with the instant of its first save, and every other
document is what it was. The name in the filter is the name of the command unless a document was
there whose filter has another name. -/

namespace LogSieve

open Files Text

namespace Store

variable {store : Store} {machine after : Machine}

theorem save_ok {filter : SavedFilter} {now : Time.Instant} {saved : Saving} {path : String}
    (ran : (store.save now false filter : StateM Machine _).run machine = (saved, after))
    (succeeded : saved.outcome = .ok path) :
    (store.review filter).valid = true ∧ ∃ place,
      after.locate (store.documentPath filter.name) = .ok place ∧
      after.tree.get? place = some (.file (octets (filter.stamped now).document)) ∧
      SameDocuments (· = place) machine.tree after.tree := by
  cases valid : (store.review filter).valid with
  | false =>
    rw [save_rejected valid] at ran
    cases ran
    cases succeeded
  | true =>
    have fit : FilterName.Fit (filter.stamped now).name :=
      FilterName.fit_of_legal (SavedFilter.valid_iff.mp valid).1
    obtain ⟨reports, attempted⟩ := save_attempted now machine valid
    rw [ran] at attempted
    generalize made : (store.attempt (filter.stamped now) : StateM Machine _).run machine = attempt
      at attempted
    obtain ⟨⟨outcome, cleared⟩, last⟩ := attempt
    cases outcome with
    | error error =>
      cases attempted
      cases succeeded
    | ok done =>
      cases attempted
      obtain ⟨place, found, content, same⟩ := attempt_ok fit made
      exact ⟨rfl, place, found, content, same⟩

end Store

namespace Command

def revised (name : String) (criteria : List Criterion) : Option SavedFilter → SavedFilter
  | some filter => { filter with criteria := criteria }
  | none => .fresh name criteria

/-- The name under which criteria are saved: a filter keeps its own. -/
def ownName (name : String) (existing : Option SavedFilter) : String :=
  (existing.map SavedFilter.name).getD name

def written (now : Time.Instant) (name : String) (criteria : List Criterion)
    (existing : Option SavedFilter) : SavedFilter where
  name := ownName name existing
  schemaVersion := SavedFilter.currentVersion
  criteria := criteria
  createdAt := some ((existing.bind SavedFilter.createdAt).getD now)
  lastModified := some now

/-- Criteria have been saved under a name, by which `existing` was loaded before. -/
structure SavedOver (store : Store) (now : Time.Instant) (name : String)
    (criteria : List Criterion) (existing : Option SavedFilter) (before after : Machine) :
    Prop where
  found : store.Loads name before existing
  kept : store.Loads (ownName name existing) after (some (written now name criteria existing))
  others : ∃ place, after.locate (store.documentPath (ownName name existing)) = .ok place ∧
    Store.SameDocuments (· = place) before.tree after.tree

section Save

variable {store : Store} {now : Time.Instant} {name : String} {criteria : List Criterion}
  {existing : Option SavedFilter} {machine after : Machine}

theorem stamped_revised (supported : SavedFilter.isSupported
      (revised name criteria existing).schemaVersion = true) :
    (revised name criteria existing).stamped now = written now name criteria existing := by
  cases existing with
  | none => rfl
  | some filter =>
    have version : filter.schemaVersion = SavedFilter.currentVersion := by
      simpa [SavedFilter.isSupported, SavedFilter.supportedVersions, revised] using supported
    simp [revised, SavedFilter.stamped, written, ownName, version]

theorem recoverable_revised (dated : now.Dated) (found : store.Loads name machine existing)
    (valid : (store.review (revised name criteria existing)).valid = true) :
    ((revised name criteria existing).stamped now).Recoverable := by
  obtain ⟨-, supported, reviewed⟩ := SavedFilter.valid_iff.mp valid
  rw [stamped_revised supported]
  refine ⟨?_, ?_, ?_⟩
  · have given : (revised name criteria existing).criteria = criteria := by cases existing <;> rfl
    exact Review.storable_of_valid (given ▸ reviewed)
  · rintro _ ⟨⟩
    cases existing with
    | none => exact dated
    | some filter =>
      cases first : filter.createdAt with
      | none => simpa [first] using dated
      | some instant => simpa [first] using found.dated instant first
  · rintro _ ⟨⟩
    exact dated

theorem savingOutcome_done {verb : String} {saving : Saving}
    (done : (savingOutcome verb name saving).ending = .done) :
    ∃ path, saving.outcome = .ok path := by
  unfold savingOutcome at done
  split at done
  · next path same => exact ⟨path, same⟩
  · cases done
  · cases done

theorem saveCriteria_done {outcome : Outcome} (truthful : machine.Truthful) (dated : now.Dated)
    (ran : (saveCriteria store now name criteria : StateM Machine _).run machine =
      (outcome, after))
    (done : outcome.ending = .done) :
    ∃ existing, SavedOver store now name criteria existing machine after := by
  obtain ⟨answer, middle, loaded, ran⟩ := Machine.run_bind ran
  have untouched := (store.inquires_load name).looks.untouched loaded
  cases answer with
  | error error =>
    obtain ⟨rfl, -⟩ := Machine.run_pure ran
    cases done
  | ok existing =>
    have found : store.Loads name machine existing :=
      Store.loads_of_run truthful (congrArg Prod.fst loaded)
    obtain ⟨saved, last, wrote, ran⟩ := Machine.run_bind ran
    obtain ⟨rfl, rfl⟩ := Machine.run_pure ran
    obtain ⟨path, succeeded⟩ := savingOutcome_done done
    have wrote : (store.save now false (revised name criteria existing) :
        StateM Machine _).run middle = (saved, after) := by
      cases existing <;> exact wrote
    -- From here on the name is the one in the filter, which is where the save has put it.
    obtain ⟨valid, place, reached, content, documents⟩ := Store.save_ok wrote succeeded
    obtain ⟨legal, supported, -⟩ := SavedFilter.valid_iff.mp valid
    have own : (revised name criteria existing).name = ownName name existing := by
      cases existing <;> rfl
    have recoverable := recoverable_revised dated found valid
    have kept := Store.loads_of_document legal recoverable reached content
    rw [stamped_revised supported, own] at kept
    exact ⟨existing, found, kept, place, own ▸ reached, untouched.tree ▸ documents⟩

end Save

def store? (surroundings : Surroundings) (invocation : Invocation) (loaded : Settings) :
    Option Store :=
  (invocation.directory.or (loaded.filterDirectory surroundings)).map fun directory =>
    ⟨directory, if invocation.caseSensitive then ⟨true⟩ else loaded.matching⟩

theorem finish_zero {outcome : Outcome} {output : String} {machine after : Machine}
    (ran : (finish outcome : StateM Machine _).run machine = ((0, output), after)) :
    outcome.ending = .done ∧ after = machine := by
  unfold finish at ran
  cases ending : outcome.ending with
  | done =>
    rw [ending] at ran
    exact ⟨rfl, (Machine.run_pure ran).2⟩
  | refused =>
    rw [ending] at ran
    cases (Machine.run_pure ran).1
  | failed layers =>
    rw [ending] at ran
    obtain ⟨_, middle, -, ran⟩ := Machine.run_bind ran
    cases (Machine.run_pure ran).1

theorem inquires_load_settings (path : Option String) :
    Machine.Inquires (Settings.load path : StateM Machine _) := by
  cases path with
  | none => exact .pure _
  | some path =>
    refine (Machine.inquires_readText path).bind fun answer => ?_
    cases answer <;> exact .pure _

theorem looks_load_settings (path : Option String) :
    Machine.Looks (Settings.load path : StateM Machine _) :=
  (inquires_load_settings path).looks

theorem SavedOver.earlier {store : Store} {now : Time.Instant} {name : String}
    {criteria : List Criterion} {existing : Option SavedFilter} {before middle after : Machine}
    (savedOver : SavedOver store now name criteria existing middle after)
    (untouched : before.Untouched middle) :
    SavedOver store now name criteria existing before after :=
  ⟨savedOver.found.earlier untouched, savedOver.kept, untouched.tree ▸ savedOver.others⟩

/-- The command that saves criteria under a name ends with status 0 only when they are saved. They
stand in the document of that name afterwards, with the first instant that stood there; every other
document is what it was. But where a document of that name held a filter of another name, all this
is true of the document of that other name. -/
theorem run_save_zero (surroundings : Surroundings) {now : Time.Instant} (dated : now.Dated)
    {invocation : Invocation} {name : String} {criteria : List Criterion}
    (saves : invocation.command = .save name criteria) {machine : Machine}
    (truthful : machine.Truthful)
    (zero : ((run surroundings now invocation >>= finish : StateM Machine _).run machine).1.1 = 0) :
    let after := ((run surroundings now invocation >>= finish : StateM Machine _).run machine).2
    ∃ settings store existing,
      ((Settings.load invocation.settings : StateM Machine _).run machine).1 = .ok settings ∧
      store? surroundings invocation settings = some store ∧
      SavedOver store now name criteria existing machine after := by
  intro after
  obtain ⟨⟨⟨status, output⟩, last⟩, ran⟩ : ∃ result, (run surroundings now invocation >>= finish :
    StateM Machine _).run machine = result := ⟨_, rfl⟩
  have same : after = last := congrArg Prod.snd ran
  rw [ran] at zero
  obtain rfl : status = 0 := zero
  rw [same]
  obtain ⟨outcome, _, ran, finished⟩ := Machine.run_bind ran
  obtain ⟨done, rfl⟩ := finish_zero finished
  obtain ⟨answer, early, loaded, ran⟩ := Machine.run_bind ran
  cases answer with
  | error error =>
    cases (Machine.run_pure ran).1
    cases done
  | ok settings =>
    obtain ⟨_, noted, note, ran⟩ := Machine.run_bind ran
    have untouched := ((looks_load_settings _).untouched loaded).trans
      ((Machine.looks_note _ _ _ _).untouched note)
    rw [saves] at ran
    have directories : Settings.filterDirectory (if invocation.caseSensitive then
        { settings with matching := ⟨true⟩ } else settings) surroundings =
          settings.filterDirectory surroundings := by
      cases invocation.caseSensitive <;> rfl
    cases known : invocation.directory.or (settings.filterDirectory surroundings) with
    | none =>
      rw [directories, known] at ran
      cases (Machine.run_pure ran).1
      cases done
    | some directory =>
      rw [directories, known] at ran
      obtain ⟨existing, savedOver⟩ := saveCriteria_done (truthful.later untouched) dated ran done
      refine ⟨settings, _, existing, congrArg Prod.fst loaded, ?_, savedOver.earlier untouched⟩
      rw [store?, known]
      cases invocation.caseSensitive <;> rfl

theorem run_save_zero_errors :
    let content := "\x7b\"name\":\"errors\",\"createdAt\":\"2026-01-01T00:00:00Z\"\x7d"
    let machine := Machine.ofTree
      ⟨[(["s"], .directory), (["s", "errors.json"], .file (octets content))]⟩ [] []
    let criteria : List Criterion := [⟨"Level", "equals", .string "error"⟩]
    let invocation : Invocation := ⟨none, some "s", false, 0, .save "errors" criteria⟩
    let now : Time.Instant := ⟨1767312000, 0⟩
    let ran := (run ⟨none, none⟩ now invocation >>= finish : StateM Machine _).run machine
    now.Dated ∧ machine.Truthful ∧ ran.1.1 = 0 ∧ ∃ settings store existing,
      ((Settings.load none : StateM Machine _).run machine).1 = .ok settings ∧
      store? ⟨none, none⟩ invocation settings = some store ∧
      SavedOver store now "errors" criteria existing machine ran.2 := by
  intro content machine criteria invocation now ran
  have dated : now.Dated := ⟨by decide, by decide⟩
  have truthful : machine.Truthful := fun _ => List.not_mem_nil
  have zero : ran.1.1 = 0 := by decide +kernel
  exact ⟨dated, truthful, zero, run_save_zero ⟨none, none⟩ dated rfl truthful zero⟩

/-- A document whose filter has another name: the criteria go to the document of that name, which
was not there, and the document of the given name stays as it is. -/
theorem errors_saved_as_other :
    let content := "\x7b\"name\":\"other\",\"criteria\":[]\x7d"
    let machine := Machine.ofTree
      ⟨[(["s"], .directory), (["s", "errors.json"], .file (octets content))]⟩ [] []
    let criteria : List Criterion := [⟨"Level", "equals", .string "error"⟩]
    let invocation : Invocation := ⟨none, some "s", false, 0, .save "errors" criteria⟩
    let store : Store := ⟨"s", ⟨false⟩⟩
    let ran := (run ⟨none, none⟩ ⟨0, 0⟩ invocation >>= finish : StateM Machine _).run machine
    ran.1.1 = 0 ∧
      (¬ ∃ found, store.Loads "errors" ran.2 (some found) ∧ found.name = "errors" ∧
        found.criteria = criteria) ∧
      machine.tree.get? ["s", "other.json"] = none ∧
      (ran.2.tree.get? ["s", "other.json"]).isSome = true := by
  intro content machine criteria invocation store ran
  have other : ((store.load "errors" : StateM Machine _).run ran.2.obliging).1.toOption.map
      (·.map SavedFilter.name) = some (some "other") := by decide +kernel
  refine ⟨by decide +kernel, ?_, by decide +kernel, by decide +kernel⟩
  rintro ⟨found, loads, named, -⟩
  rw [show _ = _ from loads] at other
  have same : found.name = "other" := Option.some.inj (Option.some.inj other)
  exact absurd (named.symm.trans same) (by decide)

end Command

end LogSieve
