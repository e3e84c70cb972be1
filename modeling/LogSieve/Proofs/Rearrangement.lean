import LogSieve.Proofs.PointEvaluation

/-! The order in which a conjunction runs its parts. Records that share a key pass or fall together
when every condition treats them alike, so a selection can be told key by key: of the records of a
key it has all that pass, or the first of them. Either does not depend on the order of the parts.
Parts that never compare keys select record by record, whatever the keys are. -/

namespace LogSieve

namespace Record

def withKey (key : RecordKey) (records : List Record) : List Record :=
  records.filter fun record => record.key = key

section WithKey

variable {key : RecordKey} {record : Record} {records others : List Record}

theorem mem_withKey : record ∈ withKey key records ↔ record ∈ records ∧ record.key = key := by
  simp [withKey]

theorem withKey_cons_of_eq (same : record.key = key) :
    withKey key (record :: records) = record :: withKey key records :=
  List.filter_cons_of_pos (by simpa using same)

theorem withKey_cons_of_ne (other : record.key ≠ key) :
    withKey key (record :: records) = withKey key records :=
  List.filter_cons_of_neg (by simpa using other)

theorem withKey_filter (key : RecordKey) (accepts : Record → Bool) (records : List Record) :
    withKey key (records.filter accepts) = (withKey key records).filter accepts := by
  rw [withKey, withKey, List.filter_filter, List.filter_filter]
  exact List.filter_congr fun _ _ => Bool.and_comm _ _

theorem withKey_eq_nil : withKey key records = [] ↔ key ∉ records.map Record.key := by
  simp [withKey]

theorem withKey_firsts (key : RecordKey) (seen : List RecordKey) (records : List Record) :
    withKey key (firsts seen records) =
      if key ∈ seen then [] else (withKey key records).take 1 := by
  induction records generalizing seen with
  | nil => simp [firsts, withKey]
  | cons record rest ih =>
    rw [firsts]
    by_cases same : record.key = key
    · rw [withKey_cons_of_eq same, same]
      split
      · next known => rw [ih, if_pos known]
      · rw [withKey_cons_of_eq same, ih, if_pos List.mem_cons_self]
        rfl
    · rw [withKey_cons_of_ne same]
      split
      · exact ih seen
      · have met : key ∈ record.key :: seen ↔ key ∈ seen :=
          ⟨fun member => (List.mem_cons.mp member).resolve_left (Ne.symm same),
            List.mem_cons_of_mem _⟩
        simp only [withKey_cons_of_ne same, ih, met]

theorem perm_of_withKey (same : ∀ key, withKey key records = withKey key others) :
    records.Perm others := by
  refine List.perm_iff_count.mpr fun record => ?_
  have counted (list : List Record) :
      (withKey record.key list).count record = list.count record :=
    List.count_filter (decide_eq_true rfl)
  rw [← counted records, ← counted others, same]

end WithKey

end Record

namespace Expression

mutual

def conditions : Expression → List Leaf
  | leaf condition => [condition]
  | allOf _ parts => conditionsIn parts
  | anyOf parts => conditionsIn parts
  | complement part => conditions part

def conditionsIn : List Expression → List Leaf
  | [] => []
  | part :: parts => conditions part ++ conditionsIn parts

end

mutual

def comparesKeys : Expression → Bool
  | leaf _ => false
  | allOf _ parts => someCompareKeys parts
  | anyOf parts => !parts.isEmpty
  | complement _ => true

def someCompareKeys : List Expression → Bool
  | [] => false
  | part :: parts => comparesKeys part || someCompareKeys parts

end

mutual

/-- Whether an expression leaves at most one record of every key. -/
def thins : Expression → Bool
  | leaf _ => false
  | allOf _ parts => someThin parts
  | anyOf parts => !parts.isEmpty
  | complement _ => false

def someThin : List Expression → Bool
  | [] => false
  | part :: parts => thins part || someThin parts

end

theorem mem_conditionsIn {parts : List Expression} {condition : Leaf} :
    condition ∈ conditionsIn parts ↔ ∃ part ∈ parts, condition ∈ part.conditions := by
  induction parts with
  | nil => simp [conditionsIn]
  | cons part parts ih => simp [conditionsIn, ih]

theorem someCompareKeys_eq_any (parts : List Expression) :
    someCompareKeys parts = parts.any comparesKeys := by
  induction parts with
  | nil => rfl
  | cons part parts ih => rw [someCompareKeys, ih, List.any_cons]

theorem someThin_eq_any (parts : List Expression) : someThin parts = parts.any thins := by
  induction parts with
  | nil => rfl
  | cons part parts ih => rw [someThin, ih, List.any_cons]

/-! Records that are alike -/

/-- Records with the same key are accepted by the same conditions. -/
def Alike (conditions : List Leaf) (records : List Record) : Prop :=
  ∀ condition ∈ conditions, ∀ first ∈ records, ∀ second ∈ records, first.key = second.key →
    condition.accepts first = condition.accepts second

instance (conditions : List Leaf) (records : List Record) : Decidable (Alike conditions records) :=
  inferInstanceAs (Decidable (∀ condition ∈ conditions, ∀ first ∈ records, ∀ second ∈ records, _))

theorem Alike.mono {conditions fewer : List Leaf} {records less : List Record}
    (alike : Alike conditions records) (within : fewer ⊆ conditions) (inside : less ⊆ records) :
    Alike fewer less :=
  fun condition known first inFirst second inSecond =>
    alike condition (within known) first (inside inFirst) second (inside inSecond)

theorem conditions_subset {part : Expression} {parts : List Expression} (known : part ∈ parts) :
    part.conditions ⊆ conditionsIn parts :=
  fun _ member => mem_conditionsIn.mpr ⟨part, known, member⟩

theorem admits_eq_of_alike (expression : Expression) {records : List Record} {first second : Record}
    (alike : Alike expression.conditions records) (inFirst : first ∈ records)
    (inSecond : second ∈ records) (same : first.key = second.key) :
    expression.admits first = expression.admits second := by
  induction expression using Expression.induction with
  | leaf condition =>
    exact alike condition List.mem_cons_self first inFirst second inSecond same
  | allOf planned parts ih =>
    rw [admits, admits, admitsAll_eq_all, admitsAll_eq_all, Bool.eq_iff_iff, List.all_eq_true,
      List.all_eq_true]
    refine forall₂_congr fun part known => ?_
    rw [ih part known (alike.mono (conditions_subset known) (List.Subset.refl records))]
  | anyOf parts ih =>
    cases parts with
    | nil => rfl
    | cons part parts =>
      rw [admits, admits, admitsAny_eq_any, admitsAny_eq_any, Bool.eq_iff_iff, List.any_eq_true,
        List.any_eq_true]
      refine exists_congr fun part => and_congr_right fun known => ?_
      rw [ih part known (alike.mono (conditions_subset known) (List.Subset.refl records))]
  | complement part ih => rw [admits, admits, ih alike]

/-! Selections key by key -/

def thinned (thin : Bool) (records : List Record) : List Record :=
  if thin then records.take 1 else records

theorem thinned_thinned (late early : Bool) (records : List Record) :
    thinned late (thinned early records) = thinned (early || late) records := by
  cases late <;> cases early <;> simp [thinned, List.take_take]

theorem thinned_eq_nil {thin : Bool} {records : List Record} :
    thinned thin records = [] ↔ records = [] := by
  cases thin <;> simp [thinned]

def Together (accepts : Record → Bool) (records : List Record) : Prop :=
  (∀ record ∈ records, accepts record = true) ∨ ∀ record ∈ records, accepts record = false

theorem together_withKey (expression : Expression) {records : List Record}
    (alike : Alike expression.conditions records) (key : RecordKey) :
    Together expression.admits (Record.withKey key records) := by
  cases listed : Record.withKey key records with
  | nil => exact .inl nofun
  | cons first rest =>
    have like : ∀ record ∈ first :: rest, expression.admits record = expression.admits first := by
      have inFirst : first ∈ Record.withKey key records := listed ▸ List.mem_cons_self
      intro record member
      rw [← listed] at member
      obtain ⟨inRecords, same⟩ := Record.mem_withKey.mp member
      obtain ⟨firstInRecords, sameFirst⟩ := Record.mem_withKey.mp inFirst
      exact admits_eq_of_alike expression alike inRecords firstInRecords
        (same.trans sameFirst.symm)
    cases verdict : expression.admits first with
    | true => exact .inl fun record member => (like record member).trans verdict
    | false => exact .inr fun record member => (like record member).trans verdict

theorem Together.mono {accepts : Record → Bool} {records less : List Record}
    (together : Together accepts records) (inside : less ⊆ records) : Together accepts less :=
  together.imp (fun pass record member => pass record (inside member))
    fun fall record member => fall record (inside member)

theorem filter_thinned {accepts : Record → Bool} {records : List Record}
    (together : Together accepts records) (thin : Bool) :
    (thinned thin records).filter accepts = thinned thin (records.filter accepts) := by
  have less : ∀ record ∈ thinned thin records, record ∈ records := by
    cases thin with
    | true => exact fun record => List.mem_of_mem_take
    | false => exact fun record => id
  rcases together with pass | fall
  · rw [List.filter_eq_self.mpr pass, List.filter_eq_self.mpr fun record member =>
      pass record (less record member)]
  · have none : ∀ list : List Record, (∀ record ∈ list, record ∈ records) →
        list.filter accepts = [] := fun list inside =>
      List.filter_eq_nil_iff.mpr fun record member => by simp [fall record (inside record member)]
    rw [none records fun _ => id, none _ less, thinned_eq_nil.mpr rfl]

/-- An expression leaves, of the records of a key, all that pass or the first of them. -/
def SelectsByKey (expression : Expression) : Prop :=
  ∀ records key, Alike expression.conditions records →
    Record.withKey key (expression.select records) =
      thinned expression.thins ((Record.withKey key records).filter expression.admits)

theorem select_subset (expression : Expression) (records : List Record) :
    expression.select records ⊆ records := by
  intro record member
  have found : Item.record record ∈ expression.results (records.map .record) := by
    rw [results_ofRecords]
    exact List.mem_map_of_mem member
  obtain ⟨other, inRecords, same⟩ := List.mem_map.mp (results_subset expression _ found)
  cases same
  exact inRecords

theorem withKey_foldl_select {order : List Expression}
    (each : ∀ part ∈ order, SelectsByKey part) {records : List Record}
    (alike : Alike (conditionsIn order) records) (key : RecordKey) :
    Record.withKey key (order.foldl (fun records part => part.select records) records) =
      thinned (order.any thins)
        ((Record.withKey key records).filter fun record => order.all fun part =>
          part.admits record) := by
  induction order generalizing records with
  | nil => simp [thinned]
  | cons part order ih =>
    have first : Alike part.conditions records :=
      alike.mono (conditions_subset List.mem_cons_self) (List.Subset.refl records)
    have later : Alike (conditionsIn order) records :=
      alike.mono (List.subset_append_right _ _) (List.Subset.refl records)
    have rest := ih (fun other member => each other (List.mem_cons_of_mem _ member))
      (later.mono (List.Subset.refl _) (select_subset part records))
    have together : Together (fun record => order.all fun part => part.admits record)
        ((Record.withKey key records).filter part.admits) := by
      have all := together_withKey (allOf true order) later key
      simp only [admits, admitsAll_eq_all] at all
      exact all.mono (List.filter_subset_self _)
    rw [List.foldl_cons, rest, each part List.mem_cons_self records key first,
      filter_thinned together, thinned_thinned, List.filter_filter, List.any_cons]
    simp only [List.all_cons, Bool.and_comm]

theorem take_one_flatMap {parts : List Expression} {records : List Record}
    (together : ∀ part ∈ parts, Together part.admits records) :
    (parts.flatMap fun part => thinned part.thins (records.filter part.admits)).take 1 =
      (records.filter fun record => parts.any fun part => part.admits record).take 1 := by
  induction parts with
  | nil => simp
  | cons part parts ih =>
    have rest := ih fun other member => together other (List.mem_cons_of_mem _ member)
    rw [List.flatMap_cons]
    rcases together part List.mem_cons_self with pass | fall
    · have any : ∀ record ∈ records, (part :: parts).any (fun part => part.admits record) = true :=
        fun record member => by rw [List.any_cons, pass record member, Bool.true_or]
      rw [List.filter_eq_self.mpr pass, List.filter_eq_self.mpr any]
      cases records with
      | nil =>
        rw [thinned_eq_nil.mpr rfl, List.nil_append, rest, List.filter_nil]
      | cons first others => cases part.thins <;> rfl
    · have same : records.filter (fun record => (part :: parts).any fun part =>
          part.admits record) =
          records.filter fun record => parts.any fun part => part.admits record :=
        List.filter_congr fun record member => by
          rw [List.any_cons, fall record member, Bool.false_or]
      have none : records.filter part.admits = [] :=
        List.filter_eq_nil_iff.mpr fun record member => by simp [fall record member]
      rw [same, none, thinned_eq_nil.mpr rfl, List.nil_append, rest]

theorem selectsByKey (expression : Expression) : SelectsByKey expression := by
  induction expression using Expression.induction with
  | leaf condition =>
    intro records key _
    rw [select_leaf, Record.withKey_filter]
    rfl
  | allOf planned parts ih =>
    intro records key alike
    have each : ∀ part ∈ (allOf planned parts).executionOrder, SelectsByKey part :=
      fun part member => ih part (mem_executionOrder.mp member)
    have same : conditionsIn (allOf planned parts).executionOrder ⊆ conditionsIn parts := by
      intro condition
      simp [mem_conditionsIn]
    rw [select_allOf, withKey_foldl_select each (alike.mono same (List.Subset.refl _)) key,
      (executionOrder_perm (allOf planned parts)).any_eq, thins, someThin_eq_any, admits_allOf]
    rfl
  | anyOf parts ih =>
    intro records key alike
    cases parts with
    | nil =>
      have all : (Record.withKey key records).filter (anyOf []).admits =
          Record.withKey key records := List.filter_eq_self.mpr fun _ _ => rfl
      rw [select_anyOf_nil, all]
      rfl
    | cons part parts =>
      have together : ∀ other ∈ part :: parts, Together other.admits (Record.withKey key records) :=
        fun other known =>
          together_withKey other (alike.mono (conditions_subset known) (List.Subset.refl _)) key
      have each : ∀ other ∈ part :: parts, Record.withKey key (other.select records) =
          thinned other.thins ((Record.withKey key records).filter other.admits) :=
        fun other known =>
          ih other known records key (alike.mono (conditions_subset known) (List.Subset.refl _))
      have parted : Record.withKey key ((part :: parts).flatMap fun part => part.select records) =
          (part :: parts).flatMap fun part =>
            thinned part.thins ((Record.withKey key records).filter part.admits) :=
        List.filter_flatMap.trans (List.flatMap_congr each)
      rw [select_anyOf, Record.withKey_firsts, if_neg List.not_mem_nil, parted,
        take_one_flatMap together]
      refine congrArg (List.take 1) (List.filter_congr fun record _ => ?_)
      rw [admits, admitsAny_eq_any]
  | complement part ih =>
    intro records key alike
    rw [select_complement, Record.withKey_filter]
    refine List.filter_congr fun record member => ?_
    rw [(Record.mem_withKey.mp member).2]
    have excluded : key ∈ (part.select records).map Record.key ↔ part.admits record = true := by
      rw [← not_iff_not, ← Record.withKey_eq_nil, ih records key alike, thinned_eq_nil,
        List.filter_eq_nil_iff]
      refine ⟨fun none => none record member, fun refused => ?_⟩
      rcases together_withKey part alike key with pass | fall
      · exact absurd (pass record member) refused
      · exact fun other known => by simp [fall other known]
    rw [admits, Bool.eq_iff_iff]
    simp [excluded]

theorem foldl_select_eq_filter {order : List Expression}
    (each : ∀ part ∈ order, ∀ records : List Record,
      part.select records = records.filter part.admits)
    (records : List Record) :
    order.foldl (fun records part => part.select records) records =
      records.filter fun record => order.all fun part => part.admits record := by
  induction order generalizing records with
  | nil => simp
  | cons part order ih =>
    rw [List.foldl_cons, each part List.mem_cons_self,
      ih fun other member => each other (List.mem_cons_of_mem _ member), List.filter_filter]
    simp only [List.all_cons, Bool.and_comm]

theorem select_eq_filter (expression : Expression) (plain : expression.comparesKeys = false)
    (records : List Record) : expression.select records = records.filter expression.admits := by
  induction expression using Expression.induction generalizing records with
  | leaf condition => exact select_leaf condition records
  | allOf planned parts ih =>
    rw [comparesKeys, someCompareKeys_eq_any, List.any_eq_false] at plain
    rw [select_allOf, admits_allOf]
    refine foldl_select_eq_filter (fun part member => ?_) records
    have known := mem_executionOrder.mp member
    exact ih part known (Bool.eq_false_iff.mpr (plain part known))
  | anyOf parts ih =>
    cases parts with
    | nil =>
      rw [select_anyOf_nil]
      exact (List.filter_eq_self.mpr fun _ _ => rfl).symm
    | cons part parts => cases plain
  | complement part ih => cases plain

theorem select_allOf_perm {parts others : List Expression} (rearranged : parts.Perm others)
    (planned replanned : Bool) {records : List Record}
    (alike : someCompareKeys parts = true → Alike (conditionsIn parts) records) :
    ((allOf planned parts).select records).Perm ((allOf replanned others).select records) := by
  have sameVerdict : (allOf planned parts).admits = (allOf replanned others).admits := by
    funext record
    rw [admits, admits, admitsAll_eq_all, admitsAll_eq_all, rearranged.all_eq]
  cases compared : someCompareKeys parts with
  | false =>
    have comparedToo : someCompareKeys others = false := by
      rw [someCompareKeys_eq_any, ← rearranged.any_eq, ← someCompareKeys_eq_any, compared]
    rw [select_eq_filter (allOf planned parts) compared,
      select_eq_filter (allOf replanned others) comparedToo, sameVerdict]
  | true =>
    have alikeToo : Alike (conditionsIn others) records := by
      refine (alike compared).mono (fun condition member => ?_) (List.Subset.refl records)
      obtain ⟨part, known, found⟩ := mem_conditionsIn.mp member
      exact mem_conditionsIn.mpr ⟨part, rearranged.mem_iff.mpr known, found⟩
    refine Record.perm_of_withKey fun key => ?_
    rw [selectsByKey (allOf planned parts) records key (alike compared),
      selectsByKey (allOf replanned others) records key alikeToo, sameVerdict, thins, thins,
      someThin_eq_any, someThin_eq_any, rearranged.any_eq]

/-- Running the parts of a conjunction in another order gives the same records, each as often,
provided that records which share a key are alike for all conditions. Where no part compares keys
there is nothing to provide. -/
theorem evaluate_rearranged {parts others : List Expression} (rearranged : parts.Perm others)
    (planned replanned : Bool) (records : List Record)
    (alike : someCompareKeys parts = true → Alike (conditionsIn parts) records) :
    let source := Flow.ofEvents (records.map fun record => .give (.record record))
    ∃ found foundToo : List Record,
      ((allOf planned parts).evaluate source).items = found.map .record ∧
      ((allOf replanned others).evaluate source).items = foundToo.map .record ∧
      found.Perm foundToo := by
  exact ⟨_, _, items_evaluate_ofRecords _ records, items_evaluate_ofRecords _ records,
    select_allOf_perm rearranged planned replanned alike⟩

theorem evaluate_rearranged_sources :
    let line (number : Nat) (level message : String) : Record :=
      ⟨"app.log", number, .utc ⟨0, 0⟩, level, message, "", none, none⟩
    let isError : Expression := leaf ⟨.level, .equals, .string "error",
      fun record => record.level = "error"⟩
    let isDisk : Expression := leaf ⟨.message, .equals, .string "disk",
      fun record => record.message = "disk"⟩
    let parts := [anyOf [isError, isDisk], isError, complement isDisk]
    let others := [complement isDisk, isError, anyOf [isError, isDisk]]
    let records := [line 1 "error" "net", line 2 "info" "disk", line 1 "error" "cpu"]
    let source := Flow.ofEvents (records.map fun record => .give (.record record))
    parts.Perm others ∧ (someCompareKeys parts = true → Alike (conditionsIn parts) records) ∧
      ∃ found foundToo : List Record,
        ((allOf false parts).evaluate source).items = found.map .record ∧
        ((allOf true others).evaluate source).items = foundToo.map .record ∧
        found.Perm foundToo := by
  intro line isError isDisk parts others records source
  have rearranged : parts.Perm others := (List.reverse_perm parts).symm
  have alike : Alike (conditionsIn parts) records := by decide
  exact ⟨rearranged, fun _ => alike,
    evaluate_rearranged rearranged false true records fun _ => alike⟩

/-- Two records of the same line that a condition tells apart: the condition behind a disjunction
finds nothing, because the disjunction has left the other record. -/
theorem evaluate_not_perm_of_copies :
    let line (level : String) : Record :=
      ⟨"app.log", 1, .utc ⟨0, 0⟩, level, "copy", "", none, none⟩
    let isError : Expression := leaf ⟨.level, .equals, .string "error",
      fun record => record.level = "error"⟩
    let isCopy : Expression := leaf ⟨.message, .equals, .string "copy",
      fun record => record.message = "copy"⟩
    let source := Flow.ofEvents
      ([line "info", line "error"].map fun record => .give (.record record))
    [anyOf [isCopy], isError].Perm [isError, anyOf [isCopy]] ∧
      ¬ ((allOf true [anyOf [isCopy], isError]).evaluate source).items.Perm
        ((allOf true [isError, anyOf [isCopy]]).evaluate source).items := by
  intro line isError isCopy source
  refine ⟨List.Perm.swap _ _ _, ?_⟩
  decide

end Expression

end LogSieve
