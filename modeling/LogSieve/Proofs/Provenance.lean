import LogSieve.Proofs.PointEvaluation
import Mathlib.Data.List.Perm.Subperm

/-! Where the records of an output come from. Whatever the keys are, no record comes more often than
the source gives it. Only a disjunction of several parts changes the order of the records: it gives
what one part finds after what another one has found. Below a complement even that does not matter,
since a complement goes through the source once more and leaves records out. -/

namespace LogSieve.Expression

open LogSieve.Flow

mutual

def keepsOrder : Expression → Bool
  | leaf _ => true
  | allOf _ parts => allKeepOrder parts
  | anyOf parts => parts.length < 2 && allKeepOrder parts
  | complement _ => true

def allKeepOrder : List Expression → Bool
  | [] => true
  | part :: parts => keepsOrder part && allKeepOrder parts

end

@[simp] theorem allKeepOrder_eq_all (parts : List Expression) :
    allKeepOrder parts = parts.all keepsOrder := by
  induction parts with
  | nil => rfl
  | cons part parts ih => simp [allKeepOrder, ih]

/-- A conjunction stands to its source as its parts do, if that can be said of one after another. -/
theorem select_allOf_related {related : List Record → List Record → Prop}
    (refl : ∀ records, related records records)
    (trans : ∀ {first second third}, related first second → related second third →
      related first third)
    {parts : List Expression}
    (each : ∀ part ∈ parts, ∀ records, related (part.select records) records)
    (planned : Bool) (records : List Record) :
    related ((allOf planned parts).select records) records := by
  rw [select_allOf]
  refine List.foldlRecOn (motive := fun found => related found records) _ _ (refl records)
    fun found known part member => ?_
  exact trans (each part (mem_executionOrder.mp member) found) known

theorem exists_part_of_mem_select {part : Expression} {parts : List Expression}
    {records : List Record} {record : Record}
    (member : record ∈ (anyOf (part :: parts)).select records) :
    ∃ chosen ∈ part :: parts, record ∈ chosen.select records := by
  rw [select_anyOf] at member
  exact List.mem_flatMap.mp ((Record.firsts_sublist [] _).subset member)

theorem nodup_keys_select (part : Expression) (parts : List Expression) (records : List Record) :
    (((anyOf (part :: parts)).select records).map Record.key).Nodup := by
  rw [select_anyOf]
  exact Record.nodup_keys_firsts [] _

theorem select_subperm (expression : Expression) (records : List Record) :
    (expression.select records).Subperm records := by
  induction expression using Expression.induction generalizing records with
  | leaf condition => simpa [select_leaf] using List.filter_sublist.subperm
  | allOf planned parts ih =>
    exact select_allOf_related List.Subperm.refl List.Subperm.trans ih planned records
  | anyOf parts ih =>
    cases parts with
    | nil => simpa [select_anyOf_nil] using List.Subperm.refl records
    | cons part parts =>
      -- Every part is given all records anew, and of what they find one record of a key is left.
      apply List.subperm_of_subset (List.Nodup.of_map _ (nodup_keys_select part parts records))
      intro record member
      obtain ⟨chosen, known, found⟩ := exists_part_of_mem_select member
      exact (ih chosen known records).subset found
  | complement part => simpa [select_complement] using List.filter_sublist.subperm

theorem select_sublist (expression : Expression) (ordered : expression.keepsOrder = true)
    (records : List Record) : (expression.select records).Sublist records := by
  induction expression using Expression.induction generalizing records with
  | leaf condition => simp [select_leaf]
  | allOf planned parts ih =>
    have each : ∀ part ∈ parts, part.keepsOrder = true := by simpa [keepsOrder] using ordered
    exact select_allOf_related List.Sublist.refl List.Sublist.trans
      (fun part known => ih part known (each part known)) planned records
  | anyOf parts ih =>
    match parts with
    | [] => simp [select_anyOf_nil]
    | [part] =>
      have same : part.keepsOrder = true := by simpa [keepsOrder] using ordered
      have found := ih part List.mem_cons_self same records
      simpa [select_anyOf] using (Record.firsts_sublist [] _).trans found
    | _ :: _ :: others =>
      simp only [keepsOrder, List.length_cons, Bool.and_eq_true, decide_eq_true_eq] at ordered
      omega
  | complement part => simp [select_complement]

theorem select_eq_filter_of_keepsOrder {expression : Expression}
    (ordered : expression.keepsOrder = true) {records : List Record}
    (distinct : (records.map Record.key).Nodup) :
    expression.select records = records.filter expression.admits := by
  have perm := selectsAdmitted expression records distinct
  have pass : (expression.select records).filter expression.admits = expression.select records := by
    refine List.filter_eq_self.mpr fun record member => ?_
    simpa using (List.mem_filter.mp (perm.mem_iff.mp member)).2
  have within := (select_sublist expression ordered records).filter expression.admits
  rw [pass] at within
  exact within.eq_of_length perm.length_eq

/-- Draining the flow of an expression gives no record more often than the source does, whatever
keys the records have. A disjunction gives one record of a key at the most, and one that a part of
it gives when it is run alone. -/
theorem evaluate_subperm (expression : Expression) (records : List Record) :
    let source := ofEvents (records.map fun record => .give (.record record))
    ∃ found : List Record,
      (expression.evaluate source).items = found.map .record ∧
      found.Subperm records ∧
      ∀ part parts, expression = anyOf (part :: parts) →
        (found.map Record.key).Nodup ∧
        ∀ record ∈ found, ∃ chosen ∈ part :: parts,
          .record record ∈ (chosen.evaluate source).items := by
  intro source
  refine ⟨_, items_evaluate_ofRecords expression records, select_subperm expression records, ?_⟩
  rintro part parts rfl
  refine ⟨nodup_keys_select part parts records, fun record member => ?_⟩
  obtain ⟨chosen, known, found⟩ := exists_part_of_mem_select member
  exact ⟨chosen, known, by simpa [source, items_evaluate_ofRecords] using found⟩

/-- Where every disjunction of several parts stands below a complement, the records come in the
order of the source. Among distinct keys they are all that pass the expression one by one. -/
theorem evaluate_inOrder (expression : Expression) (ordered : expression.keepsOrder = true)
    (records : List Record) :
    ∃ found : List Record,
      (expression.evaluate (ofEvents (records.map fun record => .give (.record record)))).items =
        found.map .record ∧
      found.Sublist records ∧
      ((records.map Record.key).Nodup → found = records.filter expression.admits) :=
  ⟨expression.select records, items_evaluate_ofRecords expression records,
    select_sublist expression ordered records, select_eq_filter_of_keepsOrder ordered⟩

theorem evaluate_inOrder_network :
    let line (number : Nat) (level message : String) : Record :=
      ⟨"app.log", number, .utc ⟨0, 0⟩, level, message, "", none, none⟩
    let isError : Expression := leaf ⟨.level, .equals, .string "error",
      fun record => record.level = "error"⟩
    let isDisk : Expression := leaf ⟨.message, .equals, .string "disk",
      fun record => record.message = "disk"⟩
    let tree := allOf false [complement (anyOf [isDisk, complement isError]), anyOf [isError]]
    let records := [line 2 "error" "net", line 3 "info" "net", line 1 "error" "cpu",
      line 4 "error" "disk"]
    tree.keepsOrder = true ∧ (records.map Record.key).Nodup ∧
      (tree.evaluate (ofEvents (records.map fun record => .give (.record record)))).items =
        [line 2 "error" "net", line 1 "error" "cpu"].map .record := by
  intro line isError isDisk tree records
  have ordered : tree.keepsOrder = true := by decide
  have distinct : (records.map Record.key).Nodup := by decide
  obtain ⟨found, drained, -, passing⟩ := evaluate_inOrder tree ordered records
  refine ⟨ordered, distinct, drained.trans (congrArg (List.map Item.record) ?_)⟩
  rw [passing distinct]
  decide

end LogSieve.Expression
