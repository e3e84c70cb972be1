import LogSieve.Expression
import Mathlib.Data.List.Sort

/-! Sorting by a number is sorting by insertion: it loses nothing and adds nothing, the numbers
rise, and what has the same number keeps its order. So a conjunction runs exactly its parts. -/

namespace LogSieve

namespace Ranking

variable {α : Type}

theorem place_eq_orderedInsert (key : α → Nat) (item : α) (items : List α) :
    place key item items =
      items.orderedInsert (fun first second => key first ≤ key second) item := by
  induction items with
  | nil => rfl
  | cons next rest ih => rw [place, ih, List.orderedInsert_cons]

theorem ranked_eq_insertionSort (key : α → Nat) (items : List α) :
    ranked key items = items.insertionSort fun first second => key first ≤ key second := by
  have placed := funext₂ (place_eq_orderedInsert key)
  rw [ranked, placed, List.insertionSort]

theorem ranked_perm (key : α → Nat) (items : List α) : (ranked key items).Perm items := by
  rw [ranked_eq_insertionSort]
  exact List.perm_insertionSort _ items

theorem ranked_pairwise (key : α → Nat) (items : List α) :
    (ranked key items).Pairwise fun first second => key first ≤ key second := by
  have total : Std.Total fun first second : α => key first ≤ key second :=
    ⟨fun first second => Nat.le_total (key first) (key second)⟩
  have trans : IsTrans α fun first second => key first ≤ key second :=
    ⟨fun _ _ _ => Nat.le_trans⟩
  rw [ranked_eq_insertionSort]
  exact List.pairwise_insertionSort _ items

theorem ranked_filter (key : α → Nat) (number : Nat) (items : List α) :
    (ranked key items).filter (fun item => key item = number) =
      items.filter fun item => key item = number := by
  have level : (items.filter fun item => key item = number).Pairwise
      fun first second => key first ≤ key second := by
    rw [List.pairwise_filter]
    refine List.pairwise_of_forall fun first second of_first of_second => ?_
    simp only [decide_eq_true_eq] at of_first of_second
    omega
  have kept := (List.sublist_insertionSort level List.filter_sublist).filter
    fun item => decide (key item = number)
  rw [List.filter_filter, ← ranked_eq_insertionSort] at kept
  simp only [Bool.and_self] at kept
  exact (kept.eq_of_length ((ranked_perm key items).filter _).length_eq.symm).symm

section Filters

variable {key : α → Nat} {first second : List α}
  (same : ∀ number, first.filter (fun item => key item = number) =
    second.filter fun item => key item = number)

include same

theorem mem_iff_of_filter (item : α) : item ∈ first ↔ item ∈ second := by
  have kept := congrArg (item ∈ ·) (same (key item))
  simpa using kept

/-- Lists whose numbers rise are one list if for each number the same items have it in both. -/
theorem eq_of_filter (rising : first.Pairwise fun a b => key a ≤ key b)
    (rising' : second.Pairwise fun a b => key a ≤ key b) : first = second := by
  induction first generalizing second with
  | nil =>
    refine (List.eq_nil_iff_forall_not_mem.mpr fun item member => ?_).symm
    exact absurd ((mem_iff_of_filter same item).mpr member) List.not_mem_nil
  | cons a first ih =>
    cases second with
    | nil => exact absurd ((mem_iff_of_filter same a).mp List.mem_cons_self) List.not_mem_nil
    | cons b second =>
      obtain ⟨least, later⟩ := List.pairwise_cons.mp rising
      obtain ⟨least', later'⟩ := List.pairwise_cons.mp rising'
      -- Each head stands in the other list, so both have the smallest number.
      have low : key a ≤ key b := by
        rcases List.mem_cons.mp ((mem_iff_of_filter same b).mpr List.mem_cons_self) with rfl | member
        · exact Nat.le_refl _
        · exact least b member
      have high : key b ≤ key a := by
        rcases List.mem_cons.mp ((mem_iff_of_filter same a).mp List.mem_cons_self) with rfl | member
        · exact Nat.le_refl _
        · exact least' a member
      have level : key b = key a := Nat.le_antisymm high low
      have heads := same (key a)
      simp only [List.filter_cons, level, decide_true, if_true, List.cons.injEq] at heads
      obtain rfl := heads.1
      refine congrArg (List.cons a) (ih (fun number => ?_) later later')
      have whole := same number
      rw [List.filter_cons, List.filter_cons] at whole
      split_ifs at whole
      · exact List.tail_eq_of_cons_eq whole
      · exact whole

end Filters

end Ranking

namespace Expression

theorem executionOrder_perm (expression : Expression) :
    expression.executionOrder.Perm expression.parts := by
  match expression with
  | allOf false parts => exact Ranking.ranked_perm rank parts
  | allOf true _ | leaf _ | anyOf _ | complement _ => exact List.Perm.refl _

@[simp] theorem mem_executionOrder {planned : Bool} {parts : List Expression}
    {part : Expression} : part ∈ (allOf planned parts).executionOrder ↔ part ∈ parts :=
  (executionOrder_perm (allOf planned parts)).mem_iff

end Expression

end LogSieve
