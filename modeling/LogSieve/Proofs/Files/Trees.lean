import LogSieve.Files.Tree
import LogSieve.Proofs.Files.Paths
import LogSieve.Proofs.Traversal

/-! What a change of a tree leaves alone. A walk depends on the directories on its way only, making
directories changes no place where something stands, and a directory holds each name once. -/

namespace LogSieve.Files.Tree

open Files.Path Text

variable {tree : Tree} {here place : Location}

/-! ### Walks -/

theorem walk_append (tree : Tree) (here : Location) (front back : List String) :
    tree.walk here (front ++ back) = (tree.walk here front).bind (tree.walk · back) := by
  induction front generalizing here with
  | nil => rfl
  | cons step rest ih =>
    rw [List.cons_append, walk, walk]
    split
    · rfl
    · rfl
    · split_ifs
      · exact ih here
      · exact ih here.dropLast
      · rfl
      · exact ih (here ++ [step])

theorem walk_entry {entry : String} (isEntry : IsEntry entry) :
    tree.walk here [entry] =
      match tree.get? here with
      | none => .error .missing
      | some (.file _) => .error .noDirectory
      | some .directory =>
        if nameLimit < octetCount entry.toList then .error .longName
        else .ok (here ++ [entry]) := by
  rw [walk, if_neg isEntry.notHere, if_neg isEntry.notAbove]
  rfl

theorem walk_of_directories {other : Tree} {steps : List String}
    (kept : ∀ place, tree.get? place = some .directory → other.get? place = some .directory)
    (reached : tree.walk here steps = .ok place) : other.walk here steps = .ok place := by
  induction steps generalizing here with
  | nil => exact reached
  | cons step rest ih =>
    rw [walk] at reached ⊢
    split at reached
    · cases reached
    · cases reached
    · next stands =>
      rw [kept here stands]
      dsimp only
      split_ifs at reached ⊢
      · exact ih reached
      · exact ih reached
      · exact ih reached

/-- Nothing stands where the steps lead, and a place on the way may be missing too. -/
def IsMissing (tree : Tree) (here : Location) (steps : List String) : Prop :=
  tree.walk here steps = .error .missing ∨
    ∃ place, tree.walk here steps = .ok place ∧ tree.get? place = none

theorem IsMissing.walk {front : List String} (missing : IsMissing tree here front) (step : String)
    (rest : List String) : tree.walk here (front ++ step :: rest) = .error .missing := by
  rw [walk_append]
  rcases missing with lost | ⟨place, found, absent⟩
  · rw [lost]
    rfl
  · rw [found, Except.bind, Tree.walk, absent]

theorem pathFault?_of_append {path ending : String} (given : path ≠ "")
    (free : pathFault? (path ++ ending) = none) : pathFault? path = none := by
  have filled : path.isEmpty = false := by simpa using given
  rw [pathFault?, String.toList_append, octetCount_append] at free
  split_ifs at free with _ clean short
  have cleanFront : ¬ path.toList.contains '\x00' = true := fun found => clean <| by
    rw [List.contains_iff_mem] at found ⊢
    exact List.mem_append_left _ found
  rw [pathFault?, filled, if_neg Bool.false_ne_true, if_neg cleanFront, if_neg (by omega)]

section Below

variable {directory entry : String}

theorem locate_join (isEntry : IsEntry entry) (free : pathFault? (join directory entry) = none) :
    tree.locate here (join directory entry) =
      (tree.walk (start here directory) (steps directory)).bind (tree.walk · [entry]) := by
  rw [locate, free, endsInSlash_join _ isEntry, start, isAbsolute_join _ isEntry,
    steps_join _ isEntry, ← walk_append]
  simp only [start, Bool.false_eq_true, ↓reduceIte, List.append_nil]

theorem pathFault?_of_locate {path : String} (reached : tree.locate here path = .ok place) :
    pathFault? path = none := by
  rw [locate] at reached
  split at reached
  · cases reached
  · assumption

theorem above_of_locate_join (isEntry : IsEntry entry)
    (reached : tree.locate here (join directory entry) = .ok place) :
    ∃ above, tree.walk (start here directory) (steps directory) = .ok above ∧
      tree.get? above = some .directory ∧ place = above ++ [entry] := by
  rw [locate_join isEntry (pathFault?_of_locate reached)] at reached
  obtain ⟨above, found, entered⟩ := bind_eq_ok.mp reached
  rw [walk_entry isEntry] at entered
  split at entered
  · cases entered
  · cases entered
  · next stands =>
    split_ifs at entered
    exact ⟨above, found, stands, (Except.ok.inj entered).symm⟩

theorem locate_join_of_walk (isEntry : IsEntry entry)
    (free : pathFault? (join directory entry) = none)
    (short : octetCount entry.toList ≤ nameLimit) {above : Location}
    (found : tree.walk (start here directory) (steps directory) = .ok above)
    (stands : tree.get? above = some .directory) :
    tree.locate here (join directory entry) = .ok (above ++ [entry]) := by
  rw [locate_join isEntry free, found, Except.bind, walk_entry isEntry, stands]
  exact if_neg (Nat.not_lt.mpr short)

theorem walk_of_locate (reached : tree.locate here directory = .ok place) :
    tree.walk (start here directory) (steps directory) = .ok place := by
  rw [locate, pathFault?_of_locate reached] at reached
  obtain ⟨above, found, entered⟩ := bind_eq_ok.mp ((walk_append _ _ _ _).symm.trans reached)
  split_ifs at entered
  · have same : above = place := by
      rw [walk] at entered
      split at entered
      · cases entered
      · cases entered
      · exact Except.ok.inj entered
    exact same ▸ found
  · exact (Except.ok.inj entered) ▸ found

theorem locate_of_walk (free : pathFault? directory = none)
    (found : tree.walk (start here directory) (steps directory) = .ok place)
    (stands : tree.get? place = some .directory) : tree.locate here directory = .ok place := by
  have more : tree.walk place (if endsInSlash directory then ["."] else []) = .ok place := by
    split_ifs
    · rw [walk, stands]
      rfl
    · rfl
  rw [locate, free]
  exact (walk_append _ _ _ _).trans ((congrArg (Except.bind · _) found).trans more)

theorem IsMissing.names (missing : IsMissing tree (start here directory) (steps directory))
    (free : pathFault? directory = none) :
    (tree.locate here directory).bind tree.names = .error .missing := by
  rw [locate, free]
  dsimp only
  split_ifs
  · rw [missing.walk]
    rfl
  · rw [List.append_nil]
    rcases missing with lost | ⟨place, found, absent⟩
    · rw [lost]
      rfl
    · rw [found, Except.bind, Tree.names, absent]

end Below

/-! ### Directories that are made -/

/-- Some directories may be new; nothing else is different. -/
def Grown (before after : Tree) : Prop :=
  ∀ place, after.get? place = before.get? place ∨
    before.get? place = none ∧ after.get? place = some .directory

theorem Grown.refl (tree : Tree) : Grown tree tree := fun _ => .inl rfl

theorem Grown.trans {first second third : Tree} (early : Grown first second)
    (late : Grown second third) : Grown first third := by
  intro place
  rcases late place with same | ⟨absent, made⟩
  · rw [same]
    exact early place
  · refine .inr ⟨?_, made⟩
    rcases early place with same | ⟨absent, -⟩
    · exact same ▸ absent
    · exact absent

theorem Grown.directory {before after : Tree} (grown : Grown before after)
    (stands : before.get? place = some .directory) : after.get? place = some .directory := by
  rcases grown place with same | ⟨-, made⟩
  · exact same.trans stands
  · exact made

theorem Grown.file_iff {before after : Tree} (grown : Grown before after) (content : Octets) :
    after.get? place = some (.file content) ↔ before.get? place = some (.file content) := by
  rcases grown place with same | ⟨absent, made⟩
  · rw [same]
  · rw [absent, made]
    exact ⟨nofun, nofun⟩

theorem Grown.none_of_none {before after : Tree} (grown : Grown before after)
    (absent : after.get? place = none) : before.get? place = none := by
  rcases grown place with same | ⟨absent, -⟩
  · exact same ▸ absent
  · exact absent

theorem makeDirectory_eq_ok {made : Tree} (succeeded : tree.makeDirectory place = .ok made) :
    tree.get? place = none ∧ made = tree.put place .directory := by
  unfold makeDirectory at succeeded
  split at succeeded
  · cases succeeded
  · next absent => exact ⟨absent, (Except.ok.inj succeeded).symm⟩

theorem grown_makeDirectory {made : Tree} (succeeded : tree.makeDirectory place = .ok made) :
    Grown tree made := by
  obtain ⟨absent, rfl⟩ := makeDirectory_eq_ok succeeded
  have notRoot : place ≠ [] := fun root => by
    rw [root, get?_root] at absent
    cases absent
  intro other
  by_cases same : other = place
  · subst same
    exact .inr ⟨absent, get?_put_self tree _ notRoot⟩
  · exact .inl (get?_put_of_ne tree _ same)

theorem isDirectory_iff {steps : List String} :
    tree.isDirectory here steps = true ↔
      ∃ place, tree.walk here steps = .ok place ∧ tree.get? place = some .directory := by
  unfold isDirectory
  cases tree.walk here steps <;> simp

theorem grown_settle {steps : List String} {made : Tree}
    (succeeded : tree.settle here steps = .ok made) : Grown tree made := by
  unfold settle at succeeded
  split at succeeded
  · next once =>
    obtain ⟨place, -, making⟩ := bind_eq_ok.mp once
    exact Except.ok.inj succeeded ▸ grown_makeDirectory making
  · split_ifs at succeeded
    exact Except.ok.inj succeeded ▸ Grown.refl tree

theorem settle_of_walk_error {steps : List String} {fault : Fault}
    (failed : tree.walk here steps = .error fault) : tree.settle here steps = .error fault := by
  have absent : tree.isDirectory here steps = false := by
    rw [isDirectory, failed]
  rw [settle, failed, Except.bind, absent]
  rfl

theorem settle_of_directory {steps : List String} (reached : tree.walk here steps = .ok place)
    (stands : tree.get? place = some .directory) : tree.settle here steps = .ok tree := by
  have taken : tree.makeDirectory place = .error .alreadyThere := by rw [makeDirectory, stands]
  rw [settle, reached, Except.bind, taken, isDirectory_iff.mpr ⟨place, reached, stands⟩]
  rfl

theorem grown_makeDirectories (tree : Tree) (here : Location) (steps : List String) :
    Grown tree (tree.makeDirectories here steps).2 := by
  induction steps with
  | nil => exact Grown.refl tree
  | cons step above ih =>
    rw [makeDirectories]
    split
    · next settled => exact grown_settle settled
    · split_ifs
      · cases made : tree.makeDirectories here above with
        | mk answer grown =>
          rw [made] at ih
          cases answer with
          | error => exact ih
          | ok =>
            dsimp only
            split
            · next settled => exact ih.trans (grown_settle settled)
            · exact ih
      · exact Grown.refl tree

theorem makeDirectories_of_directory {steps : List String}
    (reached : tree.walk here steps.reverse = .ok place)
    (stands : tree.get? place = some .directory) :
    tree.makeDirectories here steps = (.ok (), tree) := by
  cases steps with
  | nil => rfl
  | cons step above =>
    rw [List.reverse_cons] at reached
    rw [makeDirectories, settle_of_directory reached stands]

theorem missing_of_makeDirectories {steps : List String} {fault : Fault}
    (succeeded : (tree.makeDirectories here steps).1 = .ok ())
    (failed : tree.walk here steps.reverse = .error fault) : fault = .missing := by
  cases steps with
  | nil => cases failed
  | cons step above =>
    rw [List.reverse_cons] at failed
    rw [makeDirectories, settle_of_walk_error failed] at succeeded
    by_contra other
    dsimp only at succeeded
    rw [if_neg other] at succeeded
    cases succeeded

/-! ### Entries of a directory -/

def children (tree : Tree) (place : Location) : List String :=
  tree.entries.filterMap fun entry =>
    if entry.1.dropLast = place then entry.1.getLast? else none

theorem names_of_directory (stands : tree.get? place = some .directory) :
    tree.names place = .ok (tree.children place) := by
  rw [names, stands]
  rfl

theorem names_eq_ok {list : List String} (named : tree.names place = .ok list) :
    tree.get? place = some .directory ∧ list = tree.children place := by
  unfold names at named
  split at named
  · cases named
  · cases named
  · next stands => exact ⟨stands, (Except.ok.inj named).symm⟩

theorem child_iff {location : Location} {name : String} :
    (if location.dropLast = place then location.getLast? else none) = some name ↔
      location = place ++ [name] := by
  constructor
  · intro found
    split_ifs at found with above
    have filled : location ≠ [] := fun none => by simp [none] at found
    have last := List.getLast?_eq_some_getLast filled
    rw [found, Option.some.injEq] at last
    rw [← List.dropLast_append_getLast filled, ← last, above]
  · rintro rfl
    simp

theorem mem_children {name : String} :
    name ∈ tree.children place ↔ ∃ node, tree.get? (place ++ [name]) = some node := by
  have filled : place ++ [name] ≠ [] := by simp
  rw [children, List.mem_filterMap, get?, if_neg filled]
  simp only [child_iff, Option.map_eq_some_iff]
  constructor
  · rintro ⟨entry, member, same⟩
    have found : (tree.entries.find? (·.1 = place ++ [name])).isSome :=
      List.find?_isSome.mpr ⟨entry, member, decide_eq_true same⟩
    obtain ⟨first, known⟩ := Option.isSome_iff_exists.mp found
    exact ⟨first.2, first, known, rfl⟩
  · rintro ⟨node, entry, found, -⟩
    have same := List.find?_some found
    exact ⟨entry, List.mem_of_find?_eq_some found, of_decide_eq_true same⟩

theorem children_erase_sublist (tree : Tree) (gone place : Location) :
    ((tree.erase gone).children place).Sublist (tree.children place) :=
  (List.filter_sublist).filterMap _

theorem nodup_children_put {name : String} {node : Node} (single : (tree.children place).Nodup) :
    ((tree.put (place ++ [name]) node).children place).Nodup := by
  have filled : place ++ [name] ≠ [] := by simp
  have same : (tree.put (place ++ [name]) node).children place =
      name :: (tree.erase (place ++ [name])).children place := by
    rw [children, put, List.filterMap_cons, child_iff.mpr rfl]
    rfl
  rw [same, List.nodup_cons]
  refine ⟨fun member => ?_, (children_erase_sublist _ _ _).nodup single⟩
  obtain ⟨other, stands⟩ := mem_children.mp member
  rw [get?_erase_self tree filled] at stands
  cases stands

/-! ### Files that are replaced -/

def replaced (tree : Tree) (place : Location) (draft name : String) (content : Octets) : Tree :=
  ((tree.put (place ++ [draft]) (.file content)).erase (place ++ [draft])).put (place ++ [name])
    (.file content)

theorem get?_replaced_of_ne {draft name : String} {content : Octets}
    (absent : tree.get? (place ++ [draft]) = none) {other : Location}
    (apart : other ≠ place ++ [name]) :
    (tree.replaced place draft name content).get? other = tree.get? other := by
  rw [replaced, get?_put_of_ne _ _ apart]
  by_cases same : other = place ++ [draft]
  · rw [same, get?_erase_self _ (by simp), absent]
  · rw [get?_erase_of_ne _ same, get?_put_of_ne _ _ same]

theorem nodup_children_replaced {draft name : String} {content : Octets}
    (single : (tree.children place).Nodup) :
    ((tree.replaced place draft name content).children place).Nodup :=
  nodup_children_put ((children_erase_sublist _ _ _).nodup (nodup_children_put single))

end LogSieve.Files.Tree
