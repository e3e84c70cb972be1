import LogSieve.Proofs.Refinement
import LogSieve.Proofs.Selection
import Mathlib.Data.List.Nodup

/-! Running an expression over records finds the records that pass it one by one. The keys of the
records have to be distinct, since a disjunction and a complement know records by their keys. -/

namespace LogSieve

namespace Expression

theorem admitsAll_eq_all (parts : List Expression) (record : Record) :
    admitsAll parts record = parts.all fun part => part.admits record := by
  induction parts with
  | nil => rfl
  | cons part parts ih => rw [admitsAll, List.all_cons, ih]

theorem admitsAny_eq_any (parts : List Expression) (record : Record) :
    admitsAny parts record = parts.any fun part => part.admits record := by
  induction parts with
  | nil => rfl
  | cons part parts ih => rw [admitsAny, List.any_cons, ih]

theorem admits_allOf (planned : Bool) (parts : List Expression) :
    (allOf planned parts).admits = fun record =>
      (allOf planned parts).executionOrder.all fun part => part.admits record := by
  funext record
  rw [admits, admitsAll_eq_all]
  exact (executionOrder_perm (allOf planned parts)).all_eq.symm

/-- An expression selects the records that pass it, whenever their keys are distinct. -/
def SelectsAdmitted (expression : Expression) : Prop :=
  ∀ records : List Record, (records.map Record.key).Nodup →
    (expression.select records).Perm (records.filter expression.admits)

theorem nodup_keys_of_perm_filter {found records : List Record} {accepts : Record → Bool}
    (distinct : (records.map Record.key).Nodup) (perm : found.Perm (records.filter accepts)) :
    (found.map Record.key).Nodup :=
  ((perm.map Record.key).nodup_iff).mpr
    (distinct.sublist (List.filter_sublist.map Record.key))

theorem foldl_select_perm {order : List Expression}
    (each : ∀ part ∈ order, SelectsAdmitted part) {records : List Record}
    (distinct : (records.map Record.key).Nodup) :
    (order.foldl (fun records part => part.select records) records).Perm
      (records.filter fun record => order.all fun part => part.admits record) := by
  induction order generalizing records with
  | nil => simp
  | cons part order ih =>
    have first := each part List.mem_cons_self records distinct
    have later := ih (fun other member => each other (List.mem_cons_of_mem _ member))
      (nodup_keys_of_perm_filter distinct first)
    rw [List.foldl_cons]
    refine later.trans ((first.filter _).trans (List.Perm.of_eq ?_))
    rw [List.filter_filter]
    simp only [List.all_cons, Bool.and_comm]

theorem SelectsAdmitted.mem_iff {part : Expression} (selects : SelectsAdmitted part)
    {records : List Record} (distinct : (records.map Record.key).Nodup) {record : Record} :
    record ∈ part.select records ↔ record ∈ records ∧ part.admits record = true :=
  ((selects records distinct).mem_iff).trans List.mem_filter

theorem mem_firsts_iff {records found : List Record}
    (distinct : (records.map Record.key).Nodup) (known : found ⊆ records) {record : Record} :
    record ∈ Record.firsts [] found ↔ record ∈ found := by
  refine ⟨fun member => (Record.firsts_sublist [] found).subset member, fun member => ?_⟩
  obtain ⟨first, met, same⟩ := Record.exists_mem_firsts member List.not_mem_nil
  have inFound := (Record.firsts_sublist [] found).subset met
  rwa [List.inj_on_of_nodup_map distinct (known inFound) (known member) same] at met

theorem mem_flatMap_select_iff {parts : List Expression}
    (each : ∀ part ∈ parts, SelectsAdmitted part) {records : List Record}
    (distinct : (records.map Record.key).Nodup) (record : Record) :
    record ∈ parts.flatMap (fun part => part.select records) ↔
      record ∈ records ∧ admitsAny parts record = true := by
  rw [List.mem_flatMap, admitsAny_eq_any, List.any_eq_true]
  constructor
  · rintro ⟨part, known, member⟩
    obtain ⟨inRecords, admitted⟩ := ((each part known).mem_iff distinct).mp member
    exact ⟨inRecords, part, known, admitted⟩
  · rintro ⟨inRecords, part, known, admitted⟩
    exact ⟨part, known, ((each part known).mem_iff distinct).mpr ⟨inRecords, admitted⟩⟩

theorem selectsAdmitted (expression : Expression) : SelectsAdmitted expression := by
  induction expression using Expression.induction with
  | leaf condition =>
    intro records _
    rw [select_leaf]
    exact List.Perm.of_eq (List.filter_congr fun _ _ => rfl)
  | allOf planned parts ih =>
    intro records distinct
    rw [select_allOf, admits_allOf]
    exact foldl_select_perm (fun part member => ih part (mem_executionOrder.mp member)) distinct
  | anyOf parts ih =>
    intro records distinct
    cases parts with
    | nil =>
      rw [select_anyOf_nil]
      exact List.Perm.of_eq (List.filter_eq_self.mpr fun _ _ => rfl).symm
    | cons part parts =>
      rw [select_anyOf]
      have found := mem_flatMap_select_iff ih distinct
      have known : (part :: parts).flatMap (fun part => part.select records) ⊆ records :=
        fun record member => ((found record).mp member).1
      refine (List.perm_ext_iff_of_nodup (List.Nodup.of_map _ (Record.nodup_keys_firsts [] _))
        ((List.Nodup.of_map _ distinct).filter _)).mpr fun record => ?_
      rw [mem_firsts_iff distinct known, found, List.mem_filter, admits]
  | complement part ih =>
    intro records distinct
    rw [select_complement]
    refine List.Perm.of_eq (List.filter_congr fun record member => ?_)
    have excluded : record.key ∈ (part.select records).map Record.key ↔
        part.admits record = true := by
      rw [List.mem_map]
      constructor
      · rintro ⟨other, selected, same⟩
        obtain ⟨inRecords, admitted⟩ := (ih.mem_iff distinct).mp selected
        rwa [List.inj_on_of_nodup_map distinct inRecords member same] at admitted
      · exact fun admitted => ⟨record, (ih.mem_iff distinct).mpr ⟨member, admitted⟩, rfl⟩
    rw [admits, Bool.eq_iff_iff]
    simp [excluded]

theorem items_evaluate_ofRecords (expression : Expression) (records : List Record) :
    (expression.evaluate (.ofEvents (records.map fun record => .give (.record record)))).items =
      (expression.select records).map .record := by
  have offers := offers_evaluate_give expression (records.map .record)
  rw [results_ofRecords, List.map_map] at offers
  exact Flow.drain_yields offers.yields rfl

/-- Draining the flow of an expression gives records only, and they are those of the source that
pass the expression one by one. -/
theorem evaluate_perm_admits (expression : Expression) (records : List Record)
    (distinct : (records.map Record.key).Nodup) :
    ∃ found : List Record,
      (expression.evaluate (.ofEvents (records.map fun record => .give (.record record)))).items =
        found.map .record ∧
      found.Perm (records.filter expression.admits) :=
  ⟨expression.select records, items_evaluate_ofRecords expression records,
    selectsAdmitted expression records distinct⟩

theorem evaluate_perm_admits_disk :
    let line (number : Nat) (level message : String) : Record :=
      ⟨"app.log", number, .utc ⟨0, 0⟩, level, message, "", none, none⟩
    let isError : Expression := leaf ⟨.level, .equals, .string "error",
      fun record => record.level = "error"⟩
    let isDisk : Expression := leaf ⟨.message, .equals, .string "disk",
      fun record => record.message = "disk"⟩
    let tree := anyOf [allOf false [isError, isDisk], complement isDisk]
    let records := [line 1 "info" "disk", line 2 "error" "disk", line 3 "info" "net"]
    (records.map Record.key).Nodup ∧
      ∃ found : List Record,
        (tree.evaluate (.ofEvents (records.map fun record => .give (.record record)))).items =
          found.map .record ∧
        found.Perm [line 2 "error" "disk", line 3 "info" "net"] :=
  ⟨by decide, evaluate_perm_admits _ _ (by decide)⟩

end Expression

end LogSieve
