import LogSieve.Proofs.Listing

/-! What an expression selects from a list of records, part by part. A disjunction selects the
first record of every key that one of its parts selects, and a complement what shares no key with
what its part selects. -/

namespace LogSieve

namespace Record

/-- The records without those whose keys have been seen; keys are seen from left to right. -/
def firsts (seen : List RecordKey) : List Record → List Record
  | [] => []
  | record :: rest =>
    if record.key ∈ seen then firsts seen rest else record :: firsts (record.key :: seen) rest

theorem firsts_ofRecords (seen : List RecordKey) (records : List Record) :
    Item.firsts seen (records.map .record) = (firsts seen records).map .record := by
  induction records generalizing seen with
  | nil => rfl
  | cons record rest ih =>
    rw [List.map_cons, Item.firsts, firsts]
    split
    · exact ih seen
    · rw [List.map_cons, ih]

theorem firsts_sublist (seen : List RecordKey) (records : List Record) :
    (firsts seen records).Sublist records := by
  induction records generalizing seen with
  | nil => exact List.Sublist.refl []
  | cons record rest ih =>
    rw [firsts]
    split
    · exact (ih seen).cons record
    · exact (ih (record.key :: seen)).cons_cons record

theorem key_notMem_of_mem_firsts {seen : List RecordKey} {records : List Record} {record : Record}
    (member : record ∈ firsts seen records) : record.key ∉ seen := by
  induction records generalizing seen with
  | nil => simp [firsts] at member
  | cons first rest ih =>
    rw [firsts] at member
    split at member
    · exact ih member
    · next new =>
      rcases List.mem_cons.mp member with rfl | later
      · exact new
      · exact fun known => ih later (List.mem_cons_of_mem _ known)

theorem nodup_keys_firsts (seen : List RecordKey) (records : List Record) :
    ((firsts seen records).map key).Nodup := by
  induction records generalizing seen with
  | nil => exact List.nodup_nil
  | cons first rest ih =>
    rw [firsts]
    split
    · exact ih seen
    · rw [List.map_cons, List.nodup_cons]
      refine ⟨fun repeated => ?_, ih _⟩
      obtain ⟨record, member, same⟩ := List.mem_map.mp repeated
      exact key_notMem_of_mem_firsts member (same ▸ List.mem_cons_self)

theorem exists_mem_firsts {seen : List RecordKey} {records : List Record} {record : Record}
    (member : record ∈ records) (new : record.key ∉ seen) :
    ∃ found ∈ firsts seen records, found.key = record.key := by
  induction records generalizing seen with
  | nil => cases member
  | cons first rest ih =>
    rw [firsts]
    rcases List.mem_cons.mp member with rfl | later
    · rw [if_neg new]
      exact ⟨record, List.mem_cons_self, rfl⟩
    · split
      · exact ih later new
      · by_cases same : record.key = first.key
        · exact ⟨first, List.mem_cons_self, same.symm⟩
        · have stillNew : record.key ∉ first.key :: seen :=
            List.not_mem_cons_of_ne_of_not_mem same new
          obtain ⟨found, known, equal⟩ := ih later stillNew
          exact ⟨found, List.mem_cons_of_mem _ known, equal⟩

end Record

namespace Expression

theorem select_leaf (condition : Leaf) (records : List Record) :
    (leaf condition).select records = records.filter condition.accepts := by
  rw [select, results, Item.filter_passes_ofRecords, Item.leading_ofRecords]

theorem select_allOf (planned : Bool) (parts : List Expression) (records : List Record) :
    (allOf planned parts).select records =
      (allOf planned parts).executionOrder.foldl (fun records part => part.select records)
        records := by
  have step : ∀ (order : List Expression) (records : List Record),
      order.foldl (fun items part => part.results items) (records.map .record) =
        (order.foldl (fun records part => part.select records) records).map .record := by
    intro order
    induction order with
    | nil => exact fun _ => rfl
    | cons part order ih =>
      intro records
      rw [List.foldl_cons, results_ofRecords, ih, List.foldl_cons]
  rw [select, results_allOf, step, Item.leading_ofRecords]

theorem select_anyOf_nil (records : List Record) : (anyOf []).select records = records :=
  Item.leading_ofRecords records

theorem select_anyOf (part : Expression) (parts : List Expression) (records : List Record) :
    (anyOf (part :: parts)).select records =
      Record.firsts [] ((part :: parts).flatMap fun part => part.select records) := by
  have united : union (part :: parts) (records.map .record) =
      ((part :: parts).flatMap fun part => part.select records).map .record := by
    rw [union_eq_flatMap, List.map_flatMap]
    simp only [results_ofRecords]
  rw [select, results, Item.firstError?_ofRecords]
  simp only [united, Record.firsts_ofRecords, Item.leading_ofRecords]

theorem select_complement (part : Expression) (records : List Record) :
    (complement part).select records =
      records.filter fun record => record.key ∉ (part.select records).map Record.key := by
  rw [select, results, Item.firstError?_ofRecords]
  simp only [filter_key?_ofRecords, Item.leading_ofRecords]

end Expression

end LogSieve
