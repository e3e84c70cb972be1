import LogSieve.Evaluation
import LogSieve.Proofs.Ranking

/-! What an expression makes of a list of items when all of them are at hand and nobody interrupts.
Conditions let errors pass. A disjunction and a complement look at the whole list first, so one
error in it is all they give. -/

namespace LogSieve

namespace Item

def key? : Item → Option RecordKey
  | record found => some found.key
  | error _ => none

def passes (accepts : Record → Bool) : Item → Bool
  | record found => accepts found
  | error _ => true

def leading : List Item → List Record
  | [] => []
  | record found :: rest => found :: leading rest
  | error _ :: _ => []

def firstError? : List Item → Option FilterError
  | [] => none
  | record _ :: rest => firstError? rest
  | error found :: _ => some found

def upToError (items : List Item) : List Item :=
  (leading items).map record ++ ((firstError? items).map error).toList

def firsts (seen : List RecordKey) : List Item → List Item
  | [] => []
  | record found :: rest =>
    if found.key ∈ seen then firsts seen rest
    else record found :: firsts (found.key :: seen) rest
  | error found :: rest => error found :: firsts seen rest

theorem leading_ofRecords (records : List Record) : leading (records.map record) = records := by
  induction records with
  | nil => rfl
  | cons first rest ih => simp only [List.map_cons, leading, ih]

theorem firstError?_ofRecords (records : List Record) :
    firstError? (records.map record) = none := by
  induction records with
  | nil => rfl
  | cons first rest ih => simp only [List.map_cons, firstError?, ih]

theorem firstError?_mem {items : List Item} {found : FilterError}
    (first : firstError? items = some found) : error found ∈ items := by
  induction items with
  | nil => simp [firstError?] at first
  | cons item rest ih =>
    cases item with
    | record other => exact List.mem_cons_of_mem _ (ih first)
    | error other =>
      obtain rfl : other = found := by simpa [firstError?] using first
      exact List.mem_cons_self

theorem eq_ofRecords_of_firstError? {items : List Item} (none : firstError? items = none) :
    items = (leading items).map record := by
  induction items with
  | nil => rfl
  | cons item rest ih =>
    cases item with
    | record found => rw [leading, List.map_cons, ← ih none]
    | error found => simp [firstError?] at none

theorem leading_upToError (items : List Item) : leading (upToError items) = leading items := by
  induction items with
  | nil => rfl
  | cons item rest ih =>
    cases item with
    | record found => simpa [upToError, leading, firstError?] using ih
    | error found => rfl

theorem firstError?_upToError (items : List Item) :
    firstError? (upToError items) = firstError? items := by
  induction items with
  | nil => rfl
  | cons item rest ih =>
    cases item with
    | record found => simpa [upToError, leading, firstError?] using ih
    | error found => rfl

theorem leading_filter (accepts : Record → Bool) (items : List Item) :
    leading (items.filter (passes accepts)) = (leading items).filter accepts := by
  induction items with
  | nil => rfl
  | cons item rest ih =>
    cases item with
    | record found =>
      by_cases accepted : accepts found
      · simp [passes, leading, accepted, ih]
      · simp [passes, leading, accepted, ih]
    | error found => rw [List.filter_cons_of_pos rfl, leading, leading, List.filter_nil]

theorem firstError?_filter (accepts : Record → Bool) (items : List Item) :
    firstError? (items.filter (passes accepts)) = firstError? items := by
  induction items with
  | nil => rfl
  | cons item rest ih =>
    cases item with
    | record found =>
      by_cases accepted : accepts found
      · simp [passes, firstError?, accepted, ih]
      · simp [passes, firstError?, accepted, ih]
    | error found => rw [List.filter_cons_of_pos rfl, firstError?, firstError?]

theorem filter_passes_ofRecords (accepts : Record → Bool) (records : List Record) :
    (records.map record).filter (passes accepts) = (records.filter accepts).map record := by
  rw [List.filter_map]
  rfl

theorem firsts_subset (seen : List RecordKey) (items : List Item) : firsts seen items ⊆ items := by
  induction items generalizing seen with
  | nil => simp [firsts]
  | cons item rest ih =>
    cases item with
    | record found =>
      rw [firsts]
      split
      · exact fun other member => List.mem_cons_of_mem _ (ih seen member)
      · exact List.cons_subset_cons _ (ih _)
    | error found => exact List.cons_subset_cons _ (ih seen)

end Item

namespace Expression

@[elab_as_elim]
theorem induction {motive : Expression → Prop}
    (leaf : ∀ condition, motive (.leaf condition))
    (allOf : ∀ planned parts, (∀ part ∈ parts, motive part) → motive (.allOf planned parts))
    (anyOf : ∀ parts, (∀ part ∈ parts, motive part) → motive (.anyOf parts))
    (complement : ∀ part, motive part → motive (.complement part)) :
    ∀ expression, motive expression
  | .leaf condition => leaf condition
  | .allOf planned parts =>
    allOf planned parts fun part _ => induction leaf allOf anyOf complement part
  | .anyOf parts => anyOf parts fun part _ => induction leaf allOf anyOf complement part
  | .complement part => complement part (induction leaf allOf anyOf complement part)

mutual

/-- The items that an expression leaves of a list. -/
def results : Expression → List Item → List Item
  | leaf condition, items => items.filter (Item.passes condition.accepts)
  | allOf planned parts, items =>
    (if planned then steps parts else Ranking.ranked Prod.fst (steps parts)).foldl
      (fun items step => step.2 items) items
  | anyOf [], items => items
  | anyOf (part :: parts), items =>
    match Item.firstError? items with
    | some error => [.error error]
    | none => Item.firsts [] (union (part :: parts) items)
  | complement part, items =>
    match Item.firstError? items with
    | some error => [.error error]
    | none => items.filter fun item => item.key? ∉ (results part items).map Item.key?

def steps : List Expression → List (Nat × (List Item → List Item))
  | [] => []
  | part :: parts => (part.rank, results part) :: steps parts

def union : List Expression → List Item → List Item
  | [], _ => []
  | part :: parts, items => results part items ++ union parts items

end

theorem steps_eq_map (parts : List Expression) :
    steps parts = parts.map fun part => (part.rank, results part) := by
  induction parts with
  | nil => rfl
  | cons part parts ih => simp [steps, ih]

theorem results_allOf (planned : Bool) (parts : List Expression) (items : List Item) :
    results (allOf planned parts) items =
      (allOf planned parts).executionOrder.foldl (fun items part => results part items) items := by
  cases planned with
  | true => simp [results, executionOrder, Expression.parts, steps_eq_map, List.foldl_map]
  | false => simp [results, executionOrder, steps_eq_map, Ranking.ranked_map, List.foldl_map]

theorem union_eq_flatMap (parts : List Expression) (items : List Item) :
    union parts items = parts.flatMap fun part => results part items := by
  induction parts with
  | nil => rfl
  | cons part parts ih => simp [union, ih]

theorem results_subset (expression : Expression) :
    ∀ items, expression.results items ⊆ items := by
  induction expression using Expression.induction with
  | leaf condition => exact fun items item member => (List.mem_filter.mp member).1
  | allOf planned parts ih =>
    intro items
    rw [results_allOf]
    refine List.foldlRecOn (motive := (· ⊆ items)) _ _ (List.Subset.refl items)
      fun found known part member => ?_
    exact List.Subset.trans (ih part (mem_executionOrder.mp member) found) known
  | anyOf parts ih =>
    intro items
    cases parts with
    | nil => exact List.Subset.refl items
    | cons part parts =>
      rw [results]
      split
      · next error first =>
        exact List.cons_subset.mpr ⟨Item.firstError?_mem first, List.nil_subset items⟩
      · intro item member
        have united : item ∈ union (part :: parts) items := Item.firsts_subset [] _ member
        rw [union_eq_flatMap] at united
        obtain ⟨chosen, known, found⟩ := List.mem_flatMap.mp united
        exact ih chosen known items found
  | complement part ih =>
    intro items
    rw [results]
    split
    · next error first =>
      exact List.cons_subset.mpr ⟨Item.firstError?_mem first, List.nil_subset items⟩
    · exact fun item member => (List.mem_filter.mp member).1

def select (expression : Expression) (records : List Record) : List Record :=
  Item.leading (expression.results (records.map .record))

theorem results_ofRecords (expression : Expression) (records : List Record) :
    expression.results (records.map .record) = (expression.select records).map .record := by
  apply Item.eq_ofRecords_of_firstError?
  cases first : Item.firstError? (expression.results (records.map .record)) with
  | none => rfl
  | some error =>
    have member := results_subset expression _ (Item.firstError?_mem first)
    simp at member

theorem filter_key?_ofRecords (part : Expression) (records : List Record) :
    ((records.map Item.record).filter fun item =>
        item.key? ∉ (part.results (records.map .record)).map Item.key?) =
      (records.filter fun record => record.key ∉ (part.select records).map Record.key).map
        .record := by
  rw [results_ofRecords, List.filter_map]
  congr 1
  apply List.filter_congr
  intro record _
  simp [Item.key?]

end Expression

end LogSieve
