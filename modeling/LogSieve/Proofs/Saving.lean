import LogSieve.Proofs.DocumentNames
import LogSieve.Proofs.MachineRequests
import LogSieve.Store

/-! A save is all or nothing for the documents. When it fails, every document is what it was, the
filter has its old stamps and no draft is left but where its removal failed; when it succeeds, the
document of the filter is the only one that is different. -/

namespace LogSieve

open Files Text

namespace SavedFilter

theorem valid_iff {matching : Matching} {saved : SavedFilter} :
    (saved.review matching).valid = true ↔
      FilterName.fault? saved.name = none ∧ isSupported saved.schemaVersion = true ∧
        (LogSieve.review matching saved.criteria).valid = true := by
  have name : saved.nameFindings.valid = true ↔ FilterName.fault? saved.name = none := by
    unfold nameFindings
    cases FilterName.fault? saved.name <;>
      simp [Findings.ofErrors, Findings.addError, Findings.clean]
  have version : saved.versionFindings.valid = true ↔ isSupported saved.schemaVersion = true := by
    unfold versionFindings
    split_ifs with known <;> simp [Findings.ofErrors, Findings.addError, Findings.clean, known]
  have size : saved.sizeFindings.valid = true := by
    unfold sizeFindings
    split_ifs <;> rfl
  simp only [review, Findings.merge, Bool.and_eq_true, name, version, size, and_true, and_assoc]

end SavedFilter

namespace Store

section Attempt

variable {m : Type → Type} [Monad m] [Host m]

def attempt (store : Store) (filter : SavedFilter) :
    m (Except StoreError Unit × Option (Except Fault Unit)) := do
  let draft := store.draftPath filter.name
  match ← Host.makeDirectories store.directory with
  | .error fault => return (.error (.files store.directory fault), none)
  | .ok () =>
    match ← replaceDocument draft (store.documentPath filter.name) filter.document with
    | .error error => return (.error error, some (← Host.remove draft))
    | .ok () => return (.ok (), none)

def conclude (store : Store) (filter : SavedFilter) :
    Except StoreError Unit × Option (Except Fault Unit) → m (Except StoreError String)
  | (.ok (), _) => do
    let document := store.documentPath filter.name
    Host.note .info topic "Saved filter configuration"
      [("config_name", quoted filter.name), ("path", document)]
    return .ok document
  | (.error error, some (.error fault)) => do
    if fault ≠ .missing then
      Host.note .warn topic "Failed to remove temporary document"
        [("path", store.draftPath filter.name), ("error", fault.message)]
    return .error error
  | (.error error, _) => return .error error

theorem writeDocument_eq [LawfulMonad m] (store : Store) (filter : SavedFilter) :
    (store.writeDocument filter : m _) = store.attempt filter >>= store.conclude filter := by
  rw [writeDocument, attempt, bind_assoc]
  refine bind_congr fun made => ?_
  rcases made with fault | ⟨⟩
  · rw [pure_bind]
    rfl
  · rw [bind_assoc]
    refine bind_congr fun replaced => ?_
    rcases replaced with error | ⟨⟩
    · dsimp only
      rw [discardDraft, bind_assoc, bind_assoc]
      refine bind_congr fun removed => ?_
      rcases removed with fault | ⟨⟩
      · by_cases missing : fault = .missing <;> simp [conclude, missing]
      · simp [conclude]
    · rw [pure_bind]
      rfl

end Attempt

theorem quiet_attempt (store : Store) (filter : SavedFilter) :
    Machine.Quiet (store.attempt filter) := by
  refine (Machine.quiet_makeDirectories _).bind fun made => ?_
  rcases made with fault | ⟨⟩
  · exact Machine.quiet_pure _
  · refine Machine.Quiet.bind ?_ fun replaced => ?_
    · refine (Machine.quiet_write _ _).bind fun written => ?_
      rcases written with fault | ⟨⟩
      · exact Machine.quiet_pure _
      · refine (Machine.quiet_rename _ _).bind fun renamed => ?_
        rcases renamed with fault | ⟨⟩ <;> exact Machine.quiet_pure _
    · rcases replaced with error | ⟨⟩
      · exact (Machine.quiet_remove _).bind fun removed => Machine.quiet_pure _
      · exact Machine.quiet_pure _

/-! ### Files of a save -/

def IsDocument (place : Location) : Prop := ∃ name, place.getLast? = some (name ++ ".json")

def IsDraft (place : Location) : Prop := ∃ name, place.getLast? = some (name ++ ".json.tmp")

theorem IsDocument.not_draft {place : Location} (document : IsDocument place) {name : String} :
    place.getLast? ≠ some (name ++ ".json.tmp") := by
  obtain ⟨other, last⟩ := document
  rw [last]
  exact fun same => FilterName.document_ne_draft (Option.some.inj same)

/-- Every document is in both trees, with the same content, unless it is at a place that is
touched. -/
def SameDocuments (touched : Location → Prop) (before after : Tree) : Prop :=
  ∀ place content, IsDocument place → ¬ touched place →
    (after.get? place = some (.file content) ↔ before.get? place = some (.file content))

def NoNewDraft (before after : Tree) : Prop :=
  ∀ place content, IsDraft place → after.get? place = some (.file content) →
    before.get? place = some (.file content)

/-- The removal of the draft has failed: it gave a fault, and the draft is still there. -/
def StuckDraft (store : Store) (filter : SavedFilter) (cleared : Option (Except Fault Unit))
    (after : Machine) : Prop :=
  ∃ fault place content, cleared = some (.error fault) ∧
    after.locate (store.draftPath filter.name) = .ok place ∧
    after.tree.get? place = some (.file content)

section Files

variable {store : Store} {filter : SavedFilter} {machine after : Machine}

theorem sameDocuments_of_keeps {touched others : Location → Prop}
    (keeps : Machine.Keeps touched machine after)
    (within : ∀ place, IsDocument place → touched place → others place) :
    SameDocuments others machine.tree after.tree := fun place content document untouched =>
  keeps.files place content fun isTouched => untouched (within place document isTouched)

theorem last_of_draft (fit : FilterName.Fit filter.name) {place : Location}
    (reached : machine.locate (store.draftPath filter.name) = .ok place) :
    place.getLast? = some (filter.name ++ ".json.tmp") := by
  obtain ⟨above, -, -, rfl⟩ := Tree.above_of_locate_join
    (FilterName.isEntry_append fit FilterName.extension_draft) reached
  exact List.getLast?_concat

theorem replaceDocument_error {draft document text : String} {error : StoreError}
    (ran : (replaceDocument draft document text : StateM Machine _).run machine =
      (.error error, after)) :
    Machine.Keeps (fun place => machine.locate draft = .ok place) machine after := by
  obtain ⟨answer, middle, written, ran⟩ := Machine.run_bind ran
  rcases answer with fault | ⟨⟩
  · obtain ⟨-, rfl⟩ := Machine.run_pure ran
    exact Machine.write_error written
  · obtain ⟨place, reached, -, early⟩ := Machine.write_ok written
    obtain ⟨answer, last, renamed, ran⟩ := Machine.run_bind ran
    rcases answer with fault | ⟨⟩
    · obtain ⟨-, rfl⟩ := Machine.run_pure ran
      exact (early.mono fun _ same => same ▸ reached).trans
        ((Machine.rename_error renamed).mono fun _ impossible => impossible.elim)
    · obtain ⟨impossible, -⟩ := Machine.run_pure ran
      cases impossible

theorem replaceDocument_ok {draft document text : String}
    (ran : (replaceDocument draft document text : StateM Machine _).run machine = (.ok (), after)) :
    ∃ source target, machine.locate draft = .ok source ∧ after.locate document = .ok target ∧
      after.tree.get? target = some (.file (octets text)) ∧
      Machine.Keeps (fun place => place = source ∨ place = target) machine after := by
  obtain ⟨answer, middle, written, ran⟩ := Machine.run_bind ran
  rcases answer with fault | ⟨⟩
  · obtain ⟨impossible, -⟩ := Machine.run_pure ran
    cases impossible
  · obtain ⟨source, reached, content, early⟩ := Machine.write_ok written
    obtain ⟨answer, last, renamed, ran⟩ := Machine.run_bind ran
    rcases answer with fault | ⟨⟩
    · obtain ⟨impossible, -⟩ := Machine.run_pure ran
      cases impossible
    · obtain ⟨-, rfl⟩ := Machine.run_pure ran
      obtain ⟨old, target, found, put, moved, late⟩ := Machine.rename_ok renamed
      -- The draft is found again where it was written.
      obtain rfl : source = old := Except.ok.inj ((early.locate reached).symm.trans found)
      exact ⟨source, target, reached, late.locate put, moved _ content,
        (early.mono fun _ same => .inl same).trans late⟩

theorem attempt_error_keeps {error : StoreError} {cleared : Option (Except Fault Unit)}
    (ran : (store.attempt filter : StateM Machine _).run machine =
      ((.error error, cleared), after)) :
    Machine.Keeps (fun place => after.locate (store.draftPath filter.name) = .ok place ∧
        ((∃ fault, cleared = some (.error fault)) ∨ after.tree.get? place = none))
      machine after := by
  obtain ⟨answer, grown, made, ran⟩ := Machine.run_bind ran
  have first := Machine.makeDirectories_keeps made
  rcases answer with fault | ⟨⟩
  · obtain ⟨-, rfl⟩ := Machine.run_pure ran
    exact first.mono fun _ impossible => impossible.elim
  · obtain ⟨answer, middle, replaced, ran⟩ := Machine.run_bind ran
    rcases answer with failure | ⟨⟩
    · have second := replaceDocument_error replaced
      obtain ⟨removal, last, removed, ran⟩ := Machine.run_bind ran
      obtain ⟨same, rfl⟩ := Machine.run_pure ran
      obtain ⟨-, rfl⟩ := Prod.mk.inj same
      refine (first.mono fun _ impossible => impossible.elim).trans ?_
      rcases removal with fault | ⟨⟩
      · have third := Machine.remove_error removed
        exact Machine.Keeps.trans
          (second.mono fun _ reached => ⟨third.locate (second.locate reached), .inl ⟨fault, rfl⟩⟩)
          (third.mono fun _ impossible => impossible.elim)
      · obtain ⟨draft, reached, gone, third⟩ := Machine.remove_ok removed
        have found := third.locate reached
        refine Machine.Keeps.trans (second.mono fun place early => ?_)
          (third.mono fun place same => same ▸ ⟨found, .inr gone⟩)
        obtain rfl : place = draft := Except.ok.inj ((second.locate early).symm.trans reached)
        exact ⟨found, .inr gone⟩
    · obtain ⟨same, -⟩ := Machine.run_pure ran
      cases congrArg Prod.fst same

theorem attempt_error (fit : FilterName.Fit filter.name) {error : StoreError}
    {cleared : Option (Except Fault Unit)}
    (ran : (store.attempt filter : StateM Machine _).run machine =
      ((.error error, cleared), after)) :
    SameDocuments (fun _ => False) machine.tree after.tree ∧
      (store.StuckDraft filter cleared after ∨ NoNewDraft machine.tree after.tree) := by
  have keeps := attempt_error_keeps ran
  refine ⟨sameDocuments_of_keeps keeps fun place document touched =>
    document.not_draft (last_of_draft fit touched.1), ?_⟩
  by_cases stuck : store.StuckDraft filter cleared after
  · exact .inl stuck
  · refine .inr fun place content _ there => (keeps.files place content ?_).mp there
    rintro ⟨found, ⟨fault, failed⟩ | gone⟩
    · exact stuck ⟨fault, place, content, failed, found, there⟩
    · rw [gone] at there
      cases there

theorem attempt_ok (fit : FilterName.Fit filter.name) {cleared : Option (Except Fault Unit)}
    (ran : (store.attempt filter : StateM Machine _).run machine = ((.ok (), cleared), after)) :
    ∃ target, after.locate (store.documentPath filter.name) = .ok target ∧
      after.tree.get? target = some (.file (octets filter.document)) ∧
      SameDocuments (· = target) machine.tree after.tree := by
  obtain ⟨answer, grown, made, ran⟩ := Machine.run_bind ran
  have first := Machine.makeDirectories_keeps made
  rcases answer with fault | ⟨⟩
  · obtain ⟨same, -⟩ := Machine.run_pure ran
    cases congrArg Prod.fst same
  · obtain ⟨answer, middle, replaced, ran⟩ := Machine.run_bind ran
    rcases answer with failure | ⟨⟩
    · obtain ⟨removal, last, removed, ran⟩ := Machine.run_bind ran
      obtain ⟨same, -⟩ := Machine.run_pure ran
      cases congrArg Prod.fst same
    · obtain ⟨-, rfl⟩ := Machine.run_pure ran
      obtain ⟨source, target, reached, found, content, late⟩ := replaceDocument_ok replaced
      have keeps := (first.mono fun _ impossible => impossible.elim).trans late
      refine ⟨target, found, content, sameDocuments_of_keeps keeps ?_⟩
      rintro place document (rfl | same)
      · exact (document.not_draft (last_of_draft fit reached)).elim
      · exact same

end Files

/-! ### Whole saves -/

section Save

variable {store : Store} {filter : SavedFilter} {now : Time.Instant} {cancelled : Bool}
  {machine : Machine}

theorem run_forM_note (texts : List String) (details : String → List (String × String))
    (machine : Machine) :
    ∃ reports, (texts.forM fun text =>
      Host.note .debug topic "Configuration warning" (details text) : StateM Machine PUnit).run
        machine = (⟨⟩, { machine with reports := reports }) := by
  induction texts generalizing machine with
  | nil => exact ⟨machine.reports, rfl⟩
  | cons text rest ih =>
    obtain ⟨reports, noted⟩ := ih { machine with reports := machine.reports ++
      [.note ⟨.debug, topic, "Configuration warning", details text⟩] }
    exact ⟨reports, noted⟩

theorem save_rejected (invalid : (store.review filter).valid = false) :
    (store.save now cancelled filter : StateM Machine _).run machine =
      (⟨.error (.rejected (store.review filter)), filter⟩, machine) := by
  rw [save, invalid]
  rfl

def saving (filter stamped : SavedFilter) : Except StoreError String → Saving
  | .error error => ⟨.error error, filter⟩
  | .ok path => ⟨.ok path, stamped⟩

theorem save_valid (now : Time.Instant) (cancelled : Bool) (machine : Machine)
    (valid : (store.review filter).valid = true) :
    ∃ reports, (store.save now cancelled filter : StateM Machine _).run machine =
      if cancelled then (⟨.error .cancelled, filter⟩, { machine with reports := reports })
      else (saving filter (filter.stamped now) <$>
        (store.writeDocument (filter.stamped now) : StateM Machine _)).run
          { machine with reports := reports } := by
  obtain ⟨reports, noted⟩ := run_forM_note (store.review filter).warnings
    (fun warning => [("config_name", filter.name), ("warning", warning)]) machine
  refine ⟨reports, ?_⟩
  rw [save, valid, if_neg (by decide), StateT.run_bind, noted]
  cases cancelled with
  | true => rfl
  | false =>
    rw [if_neg Bool.false_ne_true, if_neg Bool.false_ne_true, map_eq_pure_bind]
    refine congrArg (fun program : StateM Machine Saving =>
      program.run { machine with reports := reports }) (bind_congr fun outcome => ?_)
    cases outcome <;> rfl

theorem run_conclude (outcome : Except StoreError Unit) (cleared : Option (Except Fault Unit)) :
    ∃ reports, (store.conclude filter (outcome, cleared) : StateM Machine _).run machine =
      (outcome.map fun _ => store.documentPath filter.name,
        { machine with reports := reports }) := by
  rcases outcome with error | ⟨⟩
  · rcases cleared with _ | fault | ⟨⟩
    · exact ⟨machine.reports, rfl⟩
    · by_cases missing : fault = .missing
      · refine ⟨machine.reports, ?_⟩
        rw [conclude, if_neg (not_not_intro missing)]
        rfl
      · refine ⟨?_, ?_⟩
        rotate_left
        · rw [conclude, if_pos missing]
          rfl
    · exact ⟨machine.reports, rfl⟩
  · exact ⟨_, rfl⟩

theorem run_writeDocument (store : Store) (filter : SavedFilter) (machine : Machine) :
    let made := (store.attempt filter : StateM Machine _).run machine
    ∃ reports, (store.writeDocument filter : StateM Machine _).run machine =
      (made.1.1.map fun _ => store.documentPath filter.name,
        { made.2 with reports := reports }) := by
  rw [writeDocument_eq]
  exact run_conclude _ _

theorem save_attempted (now : Time.Instant) (machine : Machine)
    (valid : (store.review filter).valid = true) :
    let made := (store.attempt (filter.stamped now) : StateM Machine _).run machine
    ∃ reports, (store.save now false filter : StateM Machine _).run machine =
      (saving filter (filter.stamped now) (made.1.1.map fun _ => store.documentPath filter.name),
        { made.2 with reports := reports }) := by
  intro made
  obtain ⟨noted, same⟩ := save_valid now false machine valid
  obtain ⟨reports, written⟩ :=
    run_writeDocument store (filter.stamped now) { machine with reports := noted }
  rw [quiet_attempt store (filter.stamped now) machine noted] at written
  refine ⟨reports, same.trans ?_⟩
  rw [if_neg Bool.false_ne_true, StateT.run_map, written]
  rfl

theorem save_stopped (now : Time.Instant) (machine : Machine)
    (stop : (store.review filter).valid = false ∨ cancelled = true) :
    ∃ error reports, (store.save now cancelled filter : StateM Machine _).run machine =
      (⟨.error error, filter⟩, { machine with reports := reports }) := by
  cases valid : (store.review filter).valid with
  | false => exact ⟨_, machine.reports, save_rejected valid⟩
  | true =>
    obtain rfl : cancelled = true := stop.resolve_left (by rw [valid]; decide)
    obtain ⟨reports, ran⟩ := save_valid now true machine valid
    exact ⟨_, reports, ran⟩

/-- A save that fails leaves the filter, every document and, unless its removal fails, no draft that
was not there; a save that is rejected or cancelled leaves the whole tree. A save that succeeds
stamps the filter and puts its document in its place, and every other document is what it was. -/
theorem save_all_or_nothing (store : Store) (now : Time.Instant) (cancelled : Bool)
    (filter : SavedFilter) (machine : Machine) :
    let saved := (store.save now cancelled filter : StateM Machine Saving).run machine
    let cleared := ((store.attempt (filter.stamped now) : StateM Machine _).run machine).1.2
    let before := machine.tree
    let after := saved.2.tree
    (∀ error, saved.1.outcome = .error error →
      saved.1.filter = filter ∧ SameDocuments (fun _ => False) before after ∧
      (store.StuckDraft filter cleared saved.2 ∨ NoNewDraft before after) ∧
      ((store.review filter).valid = false ∨ cancelled = true → after = before)) ∧
    (∀ path, saved.1.outcome = .ok path →
      path = store.documentPath filter.name ∧ saved.1.filter = filter.stamped now ∧
      ∃ document, saved.2.locate path = .ok document ∧
        after.get? document = some (.file (octets saved.1.filter.document)) ∧
        SameDocuments (· = document) before after) := by
  intro saved cleared before after
  by_cases stop : (store.review filter).valid = false ∨ cancelled = true
  · obtain ⟨error, reports, ran⟩ := save_stopped now machine stop
    have answer : saved.1 = ⟨.error error, filter⟩ := congrArg Prod.fst ran
    have unchanged : after = before := congrArg (·.2.tree) ran
    rw [answer, unchanged]
    exact ⟨fun _ _ => ⟨rfl, fun _ _ _ _ => Iff.rfl, .inr fun _ _ _ there => there, fun _ => rfl⟩,
      nofun⟩
  · obtain ⟨valid, going⟩ := not_or.mp stop
    have valid : (store.review filter).valid = true := Bool.of_not_eq_false valid
    obtain rfl : cancelled = false := Bool.of_not_eq_true going
    have fit : FilterName.Fit (filter.stamped now).name :=
      FilterName.fit_of_legal (SavedFilter.valid_iff.mp valid).1
    obtain ⟨reports, ran⟩ := save_attempted now machine valid
    cases attempted : (store.attempt (filter.stamped now) : StateM Machine _).run machine with
    | mk answer last =>
      obtain ⟨outcome, removal⟩ := answer
      rw [attempted] at ran
      have result : saved.1 = saving filter (filter.stamped now)
          (outcome.map fun _ => store.documentPath filter.name) := congrArg Prod.fst ran
      have state : saved.2 = { last with reports := reports } := congrArg Prod.snd ran
      have tree : after = last.tree := by rw [show after = saved.2.tree from rfl, state]
      rw [result, tree, state]
      rcases outcome with failure | ⟨⟩
      · obtain ⟨documents, drafts⟩ := attempt_error fit attempted
        have same : cleared = removal := congrArg (·.1.2) attempted
        rw [same]
        exact ⟨fun _ _ => ⟨rfl, documents, drafts, fun stopped => (stop stopped).elim⟩, nofun⟩
      · obtain ⟨target, found, content, documents⟩ := attempt_ok fit attempted
        refine ⟨nofun, fun path written => ?_⟩
        obtain rfl : store.documentPath filter.name = path := Except.ok.inj written
        exact ⟨rfl, rfl, target, found, content, documents⟩

end Save

end Store

end LogSieve
