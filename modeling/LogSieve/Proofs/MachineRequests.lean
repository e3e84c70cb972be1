import LogSieve.Machine
import LogSieve.Proofs.Files.Trees

/-! Requests to a machine. Whether a request works or fails, it leaves alone every directory and
every file that it does not name; on a machine without turns it does what it says; and no request
looks at the reports. Some programs only look, and so leave the files as they are. -/

namespace LogSieve

open Files Text

namespace Machine

variable {machine before after : Machine}

/-! ### Programs -/

section Programs

variable {value result : α}

theorem run_bind {first : StateM Machine β} {next : β → StateM Machine α}
    (ran : (first >>= next).run before = (result, after)) :
    ∃ value middle, first.run before = (value, middle) ∧
      (next value).run middle = (result, after) :=
  ⟨_, _, rfl, ran⟩

theorem run_bind_of_run {first : StateM Machine β} {next : β → StateM Machine α} {value : β}
    (ran : first.run before = (value, after)) :
    (first >>= next).run before = (next value).run after := by
  rw [StateT.run_bind, ran]
  rfl

theorem run_pure (ran : (pure value : StateM Machine α).run before = (result, after)) :
    result = value ∧ after = before :=
  ⟨(congrArg Prod.fst ran).symm, (congrArg Prod.snd ran).symm⟩

end Programs

/-! ### What a request leaves alone -/

/-- Directories stay, and the content of every file at a place that is not touched. -/
structure Keeps (touched : Location → Prop) (before after : Machine) : Prop where
  here : after.here = before.here
  directories : ∀ place, before.tree.get? place = some .directory →
    after.tree.get? place = some .directory
  files : ∀ place content, ¬ touched place →
    (after.tree.get? place = some (.file content) ↔ before.tree.get? place = some (.file content))

namespace Keeps

variable {touched : Location → Prop}

theorem of_tree_eq (here : after.here = before.here) (same : after.tree = before.tree) :
    Keeps touched before after :=
  ⟨here, fun _ stands => same ▸ stands, fun _ _ _ => by rw [same]⟩

theorem of_grown (here : after.here = before.here)
    (grown : Tree.Grown before.tree after.tree) : Keeps touched before after :=
  ⟨here, fun _ stands => grown.directory stands, fun _ content _ => grown.file_iff content⟩

theorem of_place (here : after.here = before.here) {place : Location}
    (free : before.tree.get? place ≠ some .directory)
    (others : ∀ other, other ≠ place → after.tree.get? other = before.tree.get? other)
    (isTouched : touched place) : Keeps touched before after where
  here := here
  directories other stands := by
    rw [others other fun same => free (same ▸ stands)]
    exact stands
  files other _ untouched := by
    rw [others other fun same => untouched (same ▸ isTouched)]

theorem trans {middle : Machine} (early : Keeps touched before middle)
    (late : Keeps touched middle after) : Keeps touched before after where
  here := late.here.trans early.here
  directories place stands := late.directories place (early.directories place stands)
  files place content untouched :=
    (late.files place content untouched).trans (early.files place content untouched)

theorem mono {more : Location → Prop} (keeps : Keeps touched before after)
    (within : ∀ place, touched place → more place) : Keeps more before after where
  here := keeps.here
  directories := keeps.directories
  files place content untouched := keeps.files place content fun isTouched =>
    untouched (within place isTouched)

theorem locate (keeps : Keeps touched before after) {path : String} {place : Location}
    (reached : before.locate path = .ok place) : after.locate path = .ok place := by
  have free := Tree.pathFault?_of_locate reached
  rw [Machine.locate, Tree.locate, free] at reached ⊢
  rw [keeps.here]
  exact Tree.walk_of_directories keeps.directories reached

end Keeps

/-! ### What a request does -/

section Requests

variable {failed : Machine → Option Octets → Tree}

theorem request_fails {act : Machine → Except Fault α × Tree} {fault : Fault}
    {left : Option Octets} {rest : List Turn} (machine : Machine)
    (failing : machine.turns = .fails fault left :: rest) :
    (request failed act).run machine =
      (.error fault, { machine with turns := rest, tree := failed machine left }) := by
  have split : (request failed act).run machine = request failed act machine := rfl
  rw [split, request, failing]

theorem request_works {act : Machine → Except Fault α × Tree} (machine : Machine)
    (willing : ∀ fault left rest, machine.turns ≠ .fails fault left :: rest) :
    (request failed act).run machine =
      ((act machine).1,
        { machine with turns := machine.turns.drop 1, tree := (act machine).2 }) := by
  have split : (request failed act).run machine = request failed act machine := rfl
  rw [split, request]
  split
  · next failing => exact absurd failing (willing _ _ _)
  · rfl

theorem request_cases {act : Machine → Except Fault α × Tree} {answer : Except Fault α}
    (ran : (request failed act).run machine = (answer, after)) :
    after.here = machine.here ∧
      ((∃ fault left, answer = .error fault ∧ after.tree = failed machine left) ∨
        (answer, after.tree) = act machine) := by
  by_cases willing : ∀ fault left rest, machine.turns ≠ .fails fault left :: rest
  · rw [request_works machine willing] at ran
    exact ⟨(congrArg (·.2.here) ran).symm,
      .inr (congrArg (fun made => (made.1, made.2.tree)) ran).symm⟩
  · push Not at willing
    obtain ⟨fault, left, rest, failing⟩ := willing
    rw [request_fails machine failing] at ran
    exact ⟨(congrArg (·.2.here) ran).symm, .inl ⟨fault, left, (congrArg Prod.fst ran).symm,
      (congrArg (·.2.tree) ran).symm⟩⟩

variable {act : Machine → Except Fault Tree}

theorem change_ok (ran : (change failed act).run machine = (.ok (), after)) :
    after.here = machine.here ∧ act machine = .ok after.tree := by
  obtain ⟨here, ⟨fault, left, impossible, -⟩ | worked⟩ := request_cases ran
  · cases impossible
  · refine ⟨here, ?_⟩
    cases made : act machine with
    | ok tree =>
      rw [made] at worked
      exact congrArg (fun answer => Except.ok answer.2) worked.symm
    | error =>
      rw [made] at worked
      cases congrArg Prod.fst worked

theorem change_error {fault : Fault}
    (ran : (change failed act).run machine = (.error fault, after)) :
    after.here = machine.here ∧
      (after.tree = machine.tree ∨ ∃ left, after.tree = failed machine left) := by
  obtain ⟨here, ⟨-, left, -, same⟩ | worked⟩ := request_cases ran
  · exact ⟨here, .inr ⟨left, same⟩⟩
  · refine ⟨here, .inl ?_⟩
    cases made : act machine with
    | ok tree =>
      rw [made] at worked
      cases congrArg Prod.fst worked
    | error =>
      rw [made] at worked
      exact congrArg Prod.snd worked

end Requests

/-! ### Machines without turns -/

section Willing

variable {failed : Machine → Option Octets → Tree}

theorem run_request {act : Machine → Except Fault α × Tree} (willing : machine.turns = []) :
    (request failed act).run machine =
      ((act machine).1, { machine with tree := (act machine).2 }) := by
  have none : machine.turns.drop 1 = machine.turns := by rw [willing]; rfl
  rw [request_works machine (by simp [willing]), none]

theorem run_look {act : Machine → Except Fault α} (willing : machine.turns = []) :
    (look act).run machine = (act machine, machine) := by
  rw [look, run_request willing]

theorem run_change {act : Machine → Except Fault Tree} {tree : Tree} (willing : machine.turns = [])
    (worked : act machine = .ok tree) :
    (change failed act).run machine = (.ok (), { machine with tree := tree }) := by
  rw [change, run_request willing, worked]

theorem run_change_error {act : Machine → Except Fault Tree} {fault : Fault}
    (willing : machine.turns = []) (refused : act machine = .error fault) :
    (change failed act).run machine = (.error fault, machine) := by
  rw [change, run_request willing, refused]

end Willing

section Files

variable {path source target : String} {content : Octets} {fault : Fault}
  {answer : Except Fault Unit}

theorem run_readText {answer : Except Fault Octets}
    (ran : (Host.read path : StateM Machine _).run machine = (answer, after)) :
    (Host.readText path : StateM Machine _).run machine = (answer.bind Host.decoded, after) :=
  run_bind_of_run ran

theorem write_eq_ok {tree made : Tree} {place : Location}
    (written : tree.write place content = .ok made) :
    tree.get? place ≠ some .directory ∧ place ≠ [] ∧ made = tree.put place (.file content) := by
  unfold Tree.write at written
  split at written
  · cases written
  · next free =>
    exact ⟨free, fun root => free (root ▸ tree.get?_root), (Except.ok.inj written).symm⟩

theorem keeps_of_write {place : Location} (here : after.here = machine.here)
    (written : machine.tree.write place content = .ok after.tree) :
    Keeps (· = place) machine after := by
  obtain ⟨free, -, put⟩ := write_eq_ok written
  refine .of_place here free (fun other apart => ?_) rfl
  rw [put, Tree.get?_put_of_ne _ _ apart]

theorem write_ok
    (ran : (Host.write path content : StateM Machine _).run machine = (.ok (), after)) :
    ∃ place, machine.locate path = .ok place ∧
      after.tree.get? place = some (.file content) ∧ Keeps (· = place) machine after := by
  obtain ⟨here, worked⟩ := change_ok ran
  obtain ⟨place, reached, written⟩ := bind_eq_ok.mp worked
  obtain ⟨-, notRoot, put⟩ := write_eq_ok written
  exact ⟨place, reached, put ▸ Tree.get?_put_self _ _ notRoot, keeps_of_write here written⟩

theorem write_error
    (ran : (Host.write path content : StateM Machine _).run machine = (.error fault, after)) :
    Keeps (fun place => machine.locate path = .ok place) machine after := by
  obtain ⟨here, same | ⟨left, same⟩⟩ := change_error ran
  · exact .of_tree_eq here same
  · unfold leave at same
    split at same
    · next reached =>
      split at same
      · next written =>
        exact (keeps_of_write here (written.trans (congrArg _ same.symm))).mono
          fun _ isPlace => isPlace ▸ reached
      · exact .of_tree_eq here same
    · exact .of_tree_eq here same

theorem rename_error
    (ran : (Host.rename source target : StateM Machine _).run machine = (.error fault, after)) :
    Keeps (fun _ => False) machine after := by
  obtain ⟨here, kept⟩ := change_error ran
  exact .of_tree_eq here (kept.elim id fun ⟨_, same⟩ => same)

theorem rename_ok
    (ran : (Host.rename source target : StateM Machine _).run machine = (.ok (), after)) :
    ∃ old new, machine.locate source = .ok old ∧ machine.locate target = .ok new ∧
      (∀ content, machine.tree.get? old = some (.file content) →
        after.tree.get? new = some (.file content)) ∧
      Keeps (fun place => place = old ∨ place = new) machine after := by
  obtain ⟨here, worked⟩ := change_ok ran
  obtain ⟨old, found, rest⟩ := bind_eq_ok.mp worked
  obtain ⟨new, reached, renamed⟩ := bind_eq_ok.mp rest
  unfold Tree.rename at renamed
  split at renamed
  · cases renamed
  · cases renamed
  · next content known =>
    split at renamed
    · cases renamed
    · next free =>
      have same := (Except.ok.inj renamed).symm
      have notRoot : new ≠ [] := fun root => free (root ▸ Tree.get?_root _)
      refine ⟨old, new, found, reached, fun other there => ?_, ?_⟩
      · rw [known, Option.some.injEq, Node.file.injEq] at there
        rw [same, ← there, Tree.get?_put_self _ _ notRoot]
      · have others : ∀ place, place ≠ old → place ≠ new →
            after.tree.get? place = machine.tree.get? place := fun place notOld notNew => by
          rw [same, Tree.get?_put_of_ne _ _ notNew, Tree.get?_erase_of_ne _ notOld]
        refine ⟨here, fun place stands => ?_, fun place _ untouched => ?_⟩
        · rw [others place ?_ ?_]
          · exact stands
          · rintro rfl
            rw [known] at stands
            cases stands
          · rintro rfl
            exact free stands
        · rw [not_or] at untouched
          rw [others place untouched.1 untouched.2]

theorem remove_ok (ran : (Host.remove path : StateM Machine _).run machine = (.ok (), after)) :
    ∃ place, machine.locate path = .ok place ∧ after.tree.get? place = none ∧
      Keeps (· = place) machine after := by
  obtain ⟨here, worked⟩ := change_ok ran
  obtain ⟨place, reached, removed⟩ := bind_eq_ok.mp worked
  unfold Tree.remove at removed
  split at removed
  · cases removed
  · cases removed
  · next content known =>
    have same := (Except.ok.inj removed).symm
    have notDirectory : machine.tree.get? place ≠ some .directory := by simp [known]
    have notRoot : place ≠ [] := fun root => notDirectory (root ▸ Tree.get?_root _)
    refine ⟨place, reached, ?_, .of_place here notDirectory (fun other apart => ?_) rfl⟩
    · rw [same, Tree.get?_erase_self _ notRoot]
    · rw [same, Tree.get?_erase_of_ne _ apart]

theorem remove_error
    (ran : (Host.remove path : StateM Machine _).run machine = (.error fault, after)) :
    Keeps (fun _ => False) machine after := by
  obtain ⟨here, kept⟩ := change_error ran
  exact .of_tree_eq here (kept.elim id fun ⟨_, same⟩ => same)

theorem makeDirectories_eq (free : Tree.pathFault? path = none) :
    machine.makeDirectories path =
      machine.tree.makeDirectories (Tree.start machine.here path) (Path.steps path).reverse := by
  have given : path.isEmpty = false := by
    have possible := free
    rw [Tree.pathFault?] at possible
    split_ifs at possible with empty
    simpa using empty
  rw [Machine.makeDirectories, given, free, if_neg Bool.false_ne_true]

theorem grown_makeDirectories (machine : Machine) (path : String) :
    Tree.Grown machine.tree (machine.makeDirectories path).2 := by
  unfold Machine.makeDirectories
  split
  · exact Tree.Grown.refl _
  · split
    · exact Tree.Grown.refl _
    · exact Tree.grown_makeDirectories _ _ _

theorem makeDirectories_keeps
    (ran : (Host.makeDirectories path : StateM Machine _).run machine = (answer, after)) :
    Keeps (fun _ => False) machine after := by
  obtain ⟨here, ⟨_, _, _, same⟩ | worked⟩ := request_cases ran
  · exact .of_tree_eq here same
  · have same : after.tree = (machine.makeDirectories path).2 := congrArg Prod.snd worked
    exact .of_grown here (same ▸ grown_makeDirectories machine path)

end Files

/-! ### Reports -/

def Quiet (act : StateM Machine α) : Prop :=
  ∀ machine reports, act.run { machine with reports := reports } =
    ((act.run machine).1, { (act.run machine).2 with reports := reports })

theorem quiet_pure (value : α) : Quiet (pure value) := fun _ _ => rfl

theorem Quiet.bind {first : StateM Machine α} {next : α → StateM Machine β} (early : Quiet first)
    (late : ∀ value, Quiet (next value)) : Quiet (first >>= next) := by
  intro machine reports
  simp only [StateT.run_bind, early machine reports]
  exact late _ _ _

theorem quiet_request {failed : Machine → Option Octets → Tree}
    {act : Machine → Except Fault α × Tree}
    (sameFailed : ∀ machine reports left,
      failed { machine with reports := reports } left = failed machine left)
    (sameAct : ∀ machine reports, act { machine with reports := reports } = act machine) :
    Quiet (request failed act) := by
  intro machine reports
  by_cases willing : ∀ fault left rest, machine.turns ≠ .fails fault left :: rest
  · rw [request_works machine willing,
      request_works { machine with reports := reports } willing, sameAct]
  · push Not at willing
    obtain ⟨fault, left, rest, failing⟩ := willing
    rw [request_fails machine failing,
      request_fails { machine with reports := reports } failing, sameFailed]

theorem quiet_look {act : Machine → Except Fault α}
    (sameAct : ∀ machine reports, act { machine with reports := reports } = act machine) :
    Quiet (look act) :=
  quiet_request (fun _ _ _ => rfl) fun machine reports => by
    rw [sameAct machine reports]

theorem quiet_change {failed : Machine → Option Octets → Tree} {act : Machine → Except Fault Tree}
    (sameFailed : ∀ machine reports left,
      failed { machine with reports := reports } left = failed machine left)
    (sameAct : ∀ machine reports, act { machine with reports := reports } = act machine) :
    Quiet (change failed act) :=
  quiet_request sameFailed fun machine reports => by
    rw [sameAct machine reports]

theorem quiet_write (path : String) (content : Octets) :
    Quiet (Host.write path content : StateM Machine _) :=
  quiet_change (fun _ _ _ => rfl) fun _ _ => rfl

theorem quiet_rename (source target : String) :
    Quiet (Host.rename source target : StateM Machine _) :=
  quiet_change (fun _ _ _ => rfl) fun _ _ => rfl

theorem quiet_remove (path : String) : Quiet (Host.remove path : StateM Machine _) :=
  quiet_change (fun _ _ _ => rfl) fun _ _ => rfl

theorem quiet_names (path : String) : Quiet (Host.names path : StateM Machine _) :=
  quiet_look fun _ _ => rfl

theorem quiet_makeDirectories (path : String) :
    Quiet (Host.makeDirectories path : StateM Machine _) :=
  quiet_request (fun _ _ _ => rfl) fun _ _ => rfl

/-! ### Programs that only look -/

structure Untouched (before after : Machine) : Prop where
  tree : after.tree = before.tree
  here : after.here = before.here
  turns : after.turns <:+ before.turns

theorem Untouched.refl (machine : Machine) : Untouched machine machine :=
  ⟨rfl, rfl, List.suffix_refl _⟩

theorem Untouched.trans {before middle after : Machine} (early : Untouched before middle)
    (late : Untouched middle after) : Untouched before after :=
  ⟨late.tree.trans early.tree, late.here.trans early.here, late.turns.trans early.turns⟩

def Looks (act : StateM Machine α) : Prop := ∀ machine, Untouched machine (act.run machine).2

theorem Looks.untouched {act : StateM Machine α} (looks : Looks act) {value : α}
    {before after : Machine} (ran : act.run before = (value, after)) : Untouched before after := by
  have kept := looks before
  rwa [ran] at kept

theorem looks_look (act : Machine → Except Fault α) : Looks (look act) := by
  intro machine
  by_cases willing : ∀ fault left rest, machine.turns ≠ .fails fault left :: rest
  · rw [look, request_works machine willing]
    exact ⟨rfl, rfl, List.drop_suffix 1 _⟩
  · push Not at willing
    obtain ⟨fault, left, rest, failing⟩ := willing
    rw [look, request_fails machine failing]
    exact ⟨rfl, rfl, failing ▸ List.suffix_cons _ _⟩

/-- A program that reads files and makes reports, and does nothing else. -/
inductive Inquires : {α : Type} → StateM Machine α → Prop
  | pure {α : Type} (value : α) : Inquires (pure value)
  | bind {α β : Type} {first : StateM Machine β} {next : β → StateM Machine α} :
      Inquires first → (∀ value, Inquires (next value)) → Inquires (first >>= next)
  | report (report : Report) : Inquires (Host.report report)
  | read (path : String) : Inquires (Host.read path)

theorem Inquires.maybe {condition : Prop} [Decidable condition] {first : StateM Machine PUnit}
    {next : PUnit → StateM Machine α} (early : Inquires first) (late : Inquires (next ⟨⟩)) :
    Inquires (if condition then first >>= next else next ⟨⟩) := by
  split
  · exact early.bind fun _ => late
  · exact late

theorem inquires_note (severity : Severity) (topic message : String)
    (details : List (String × String)) :
    Inquires (Host.note severity topic message details : StateM Machine Unit) :=
  .report _

theorem inquires_readText (path : String) : Inquires (Host.readText path : StateM Machine _) :=
  (Inquires.read path).bind fun _ => .pure _

theorem Inquires.looks {act : StateM Machine α} (inquires : Inquires act) : Looks act := by
  induction inquires with
  | pure value => exact Untouched.refl
  | bind _ _ early late => exact fun machine => (early machine).trans (late _ _)
  | report report => exact fun _ => ⟨rfl, rfl, List.suffix_refl _⟩
  | read path => exact looks_look _

theorem looks_note (severity : Severity) (topic message : String)
    (details : List (String × String)) :
    Looks (Host.note severity topic message details : StateM Machine Unit) :=
  (inquires_note severity topic message details).looks

/-- No request fails as if a file were missing. -/
def Truthful (machine : Machine) : Prop := ∀ left, .fails .missing left ∉ machine.turns

theorem Truthful.later {before after : Machine} (truthful : Truthful before)
    (untouched : Untouched before after) : Truthful after :=
  fun left member => truthful left (untouched.turns.subset member)

def obliging (machine : Machine) : Machine := { machine with turns := [] }

theorem read_cases (machine : Machine) (path : String) :
    let answer := ((Host.read path : StateM Machine _).run machine).1
    (∃ fault left, answer = .error fault ∧ .fails fault left ∈ machine.turns) ∨
      answer = (machine.locate path).bind machine.tree.read := by
  by_cases willing : ∀ fault left rest, machine.turns ≠ .fails fault left :: rest
  · exact .inr (congrArg Prod.fst (request_works machine willing))
  · push Not at willing
    obtain ⟨fault, left, rest, failing⟩ := willing
    exact .inl ⟨fault, left, congrArg Prod.fst (request_fails machine failing),
      failing ▸ List.mem_cons_self⟩

theorem run_read_obliging (machine : Machine) (path : String) :
    (Host.read path : StateM Machine _).run machine.obliging =
      ((machine.locate path).bind machine.tree.read, machine.obliging) :=
  run_look rfl

end Machine

end LogSieve
