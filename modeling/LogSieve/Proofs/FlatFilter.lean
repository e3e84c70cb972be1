import LogSieve.Proofs.Ranking
import LogSieve.Proofs.Refinement
import LogSieve.Proofs.Traversal
import LogSieve.Sieve

/-! What a list of criteria means. Criteria that pass the review become conditions, and what comes
of a source are the records that meet all of them, up to the first error. The order in which the
plan runs the conditions makes no difference. -/

namespace LogSieve

open LogSieve.Flow

namespace Criterion

variable {matching : Matching} {criterion : Criterion}

theorem named_of_check {comparison : Comparison}
    (passed : criterion.check matching = .ok comparison) :
    Comparison.named matching criterion.field criterion.operator = .ok comparison ∧
      ∃ test, comparison.test criterion.value = .ok test := by
  unfold check at passed
  repeat' split at passed
  all_goals cases passed
  next test named tested => exact ⟨named, test, tested⟩

theorem ofCriterion_of_check {comparison : Comparison}
    (passed : criterion.check matching = .ok comparison) :
    ∃ leaf, Leaf.ofCriterion matching criterion = .ok leaf := by
  obtain ⟨named, test, tested⟩ := named_of_check passed
  refine ⟨⟨comparison.field, comparison.operator, criterion.value, test.accepts⟩, ?_⟩
  exact bind_eq_ok.mpr ⟨comparison, named, bind_eq_ok.mpr ⟨test, tested, rfl⟩⟩

theorem entry_of_check {comparison : Comparison}
    (passed : criterion.check matching = .ok comparison) :
    ∃ planned, Plan.entry matching criterion = .ok planned := by
  obtain ⟨named, -⟩ := named_of_check passed
  have entry : Plan.entry matching criterion =
      Comparison.named matching criterion.field criterion.operator >>= fun comparison => .ok
        ⟨criterion, comparison.selectivity criterion.value, comparison.cost,
          comparison.selectivity criterion.value + Plan.costWeight * comparison.cost⟩ := rfl
  rw [entry, named]
  exact ⟨_, rfl⟩

theorem criterion_of_entry {planned : Planned}
    (made : Plan.entry matching criterion = .ok planned) : planned.criterion = criterion := by
  obtain ⟨comparison, -, same⟩ := bind_eq_ok.mp made
  cases same
  rfl

end Criterion

namespace Review

theorem reviewFrom_valid {matching : Matching} {position : Nat} {seen : List Reviewed}
    {criteria : List Criterion} :
    (reviewFrom matching position seen criteria).valid = true ↔
      ∀ criterion ∈ criteria, ∃ comparison, criterion.check matching = .ok comparison := by
  induction criteria generalizing position seen with
  | nil => simp [reviewFrom, Findings.clean]
  | cons criterion rest ih =>
    rw [reviewFrom, List.forall_mem_cons]
    split
    · next problem failed => simp [Findings.merge, failed]
    · next comparison passed =>
      simp only [Findings.merge, Bool.true_and, passed]
      rw [ih]
      exact ⟨fun others => ⟨⟨comparison, rfl⟩, others⟩, fun all => all.2⟩

/-- The order of the criteria changes the messages of a review, never its verdict. -/
theorem valid_of_perm {matching : Matching} {order criteria : List Criterion}
    (perm : order.Perm criteria) (valid : (review matching criteria).valid = true) :
    (review matching order).valid = true :=
  reviewFrom_valid.mpr fun criterion member =>
    reviewFrom_valid.mp valid criterion (perm.mem_iff.mp member)

end Review

def Leaf.allAccept (leaves : List Leaf) (record : Record) : Bool :=
  leaves.all fun leaf => leaf.accepts record

theorem Leaf.allAccept_of_perm {first second : List Leaf} (perm : first.Perm second) :
    Leaf.allAccept first = Leaf.allAccept second :=
  funext fun _ => perm.all_eq

namespace Expression

theorem foldl_results_leaves (leaves : List Leaf) (items : List Item) :
    (leaves.map leaf).foldl (fun items part => part.results items) items =
      items.filter (Item.passes (Leaf.allAccept leaves)) := by
  induction leaves generalizing items with
  | nil =>
    refine (List.filter_eq_self.mpr fun item _ => ?_).symm
    cases item with
    | record found => rfl
    | error found => rfl
  | cons condition leaves ih =>
    rw [List.map_cons, List.foldl_cons, ih, results, List.filter_filter]
    refine List.filter_congr fun item _ => ?_
    cases item with
    | record found => simp only [Item.passes, Leaf.allAccept, List.all_cons, Bool.and_comm]
    | error found => rfl

end Expression

section Plan

variable {matching : Matching} {criteria : List Criterion}

theorem plan_perm
    (each : ∀ criterion ∈ criteria, ∃ comparison, criterion.check matching = .ok comparison) :
    ∃ planned, plan matching criteria = .ok planned ∧
      (planned.map Planned.criterion).Perm criteria := by
  obtain ⟨entries, made⟩ := exists_mapM_eq_ok fun criterion member =>
    (each criterion member).elim fun _ passed => Criterion.entry_of_check passed
  refine ⟨Ranking.ranked Planned.rank entries, bind_eq_ok.mpr ⟨entries, made, rfl⟩, ?_⟩
  have same : entries.map Planned.criterion = criteria := by
    have related := (mapM_eq_ok.mp made).imp fun _ _ entry => Criterion.criterion_of_entry entry
    exact List.forall₂_eq_eq_eq ▸ List.forall₂_map_left_iff.mpr related.flip
  rw [← same]
  exact (Ranking.ranked_perm Planned.rank entries).map Planned.criterion

/-- On each of the three ways an expression is made, it keeps what all criteria accept. -/
theorem expressionOf_results {leaves : List Leaf}
    (each : ∀ criterion ∈ criteria, ∃ comparison, criterion.check matching = .ok comparison)
    (compiled : criteria.mapM (Leaf.ofCriterion matching) = .ok leaves) :
    ∃ expression, expressionOf matching criteria = .ok expression ∧
      ∀ items, expression.results items =
        items.filter (Item.passes (Leaf.allAccept leaves)) := by
  unfold expressionOf
  split
  · next criterion =>
    obtain ⟨condition, others, first, later, rfl⟩ :=
      List.forall₂_cons_left_iff.mp (mapM_eq_ok.mp compiled)
    obtain rfl := List.forall₂_nil_left_iff.mp later
    refine ⟨.leaf condition, bind_eq_ok.mpr ⟨condition, first, rfl⟩, fun items => ?_⟩
    exact Expression.foldl_results_leaves [condition] items
  · obtain ⟨planned, made, perm⟩ := plan_perm each
    obtain ⟨arranged, ordered, permuted⟩ := mapM_perm perm compiled
    rw [List.mapM_map] at ordered
    refine ⟨.allOf true (arranged.map .leaf),
      bind_eq_ok.mpr ⟨planned, made, bind_eq_ok.mpr ⟨arranged, ordered, rfl⟩⟩, fun items => ?_⟩
    rw [Expression.results_allOf, Expression.executionOrder_planned,
      Expression.foldl_results_leaves, Leaf.allAccept_of_perm permuted]

end Plan

/-- Pulling what comes of a source meets the records in front of the first error that every
criterion accepts, then that error and nothing more, in whatever order the criteria stand. -/
theorem serve_sieve (matching : Matching) (criteria : List Criterion) (items : List Item)
    (valid : (review matching criteria).valid = true) :
    ∃ leaves, criteria.mapM (Leaf.ofCriterion matching) = .ok leaves ∧
      ∀ order, order.Perm criteria →
        ∃ flow, sieve matching order (ofEvents (items.map .give)) = .ok flow ∧
          ∀ pulls, (flow.serve .start (List.replicate pulls .pull)).1 =
            ((((Item.leading items).filter (Leaf.allAccept leaves)).map Item.record ++
              ((Item.firstError? items).map Item.error).toList).map some).takeD pulls none := by
  have each := Review.reviewFrom_valid.mp valid
  obtain ⟨leaves, compiled⟩ := exists_mapM_eq_ok fun criterion member =>
    (each criterion member).elim fun _ passed => Criterion.ofCriterion_of_check passed
  refine ⟨leaves, compiled, fun order perm => ?_⟩
  have validOrder := Review.valid_of_perm perm valid
  obtain ⟨arranged, ordered, permuted⟩ := mapM_perm perm compiled
  obtain ⟨expression, made, kept⟩ :=
    expressionOf_results (Review.reviewFrom_valid.mp validOrder) ordered
  refine ⟨expression.apply (ofEvents (items.map .give)), ?_, fun pulls => ?_⟩
  · rw [sieve, if_pos validOrder]
    exact bind_eq_ok.mpr ⟨expression, made, rfl⟩
  · have offers := expression.offers_evaluate_give items
    rw [kept, Leaf.allAccept_of_perm permuted] at offers
    have answers := serve_pulls_untilError offers pulls
    rw [Item.upToError, Item.leading_filter, Item.firstError?_filter] at answers
    exact answers

theorem serve_sieve_timeouts :
    let line (number : Nat) (level message : String) : Record :=
      ⟨"app.log", number, .utc ⟨0, 0⟩, level, message, "", none, none⟩
    let isError : Criterion := ⟨"level", "equals", .string "error"⟩
    let isTimeout : Criterion := ⟨"message", "contains", .string "timeout"⟩
    let broken : Item := .error (.invalidRecord 3 "no level")
    let items : List Item := [.record (line 1 "Error" "read Timeout"),
      .record (line 2 "info" "timeout"), broken, .record (line 4 "error" "timeout")]
    (review ⟨false⟩ [isError, isTimeout]).valid = true ∧
      ∃ flow, sieve ⟨false⟩ [isTimeout, isError] (ofEvents (items.map .give)) = .ok flow ∧
        ∀ pulls, (flow.serve .start (List.replicate pulls .pull)).1 =
          [some (.record (line 1 "Error" "read Timeout")), some broken].takeD pulls none := by
  intro line isError isTimeout broken items
  have valid : (review ⟨false⟩ [isError, isTimeout]).valid = true := by decide +kernel
  have kept : (([isError, isTimeout].mapM (Leaf.ofCriterion ⟨false⟩)).map fun leaves =>
      (Item.leading items).filter (Leaf.allAccept leaves)).toOption =
      some [line 1 "Error" "read Timeout"] := by
    decide +kernel
  obtain ⟨leaves, compiled, answers⟩ := serve_sieve ⟨false⟩ _ items valid
  rw [compiled] at kept
  have hit : (Item.leading items).filter (Leaf.allAccept leaves) =
      [line 1 "Error" "read Timeout"] := Option.some.inj kept
  obtain ⟨flow, made, served⟩ := answers _ (List.Perm.swap isError isTimeout [])
  refine ⟨valid, flow, made, fun pulls => ?_⟩
  rw [served, hit]
  rfl

end LogSieve
