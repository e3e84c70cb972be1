import LogSieve.Proofs.FlatFilter
import LogSieve.Proofs.StableOrder

/-! The plan of a list of criteria. It holds an entry for every criterion, with the numbers of that
criterion; the scores rise, and criteria of one score keep their order. The expression that is made
of criteria runs their conditions as the plan has them, whatever the selectivities of the conditions
alone would say. -/

namespace LogSieve

namespace Planned

/-- The entry of a criterion in a plan, with the criterion's own numbers. -/
structure Describes (matching : Matching) (criterion : Criterion) (entry : Planned) : Prop where
  criterion_eq : entry.criterion = criterion
  comparison : ∃ comparison,
    Comparison.named matching criterion.field criterion.operator = .ok comparison ∧
      entry.selectivity = comparison.operator.selectivity criterion.value ∧
      entry.cost = Catalog.cost comparison.field comparison.operator
  score_eq : entry.score = entry.selectivity + 0.1 * entry.cost

theorem describes_of_entry {matching : Matching} {criterion : Criterion} {entry : Planned}
    (made : Plan.entry matching criterion = .ok entry) : entry.Describes matching criterion := by
  obtain ⟨comparison, named, same⟩ := bind_eq_ok.mp made
  cases same
  exact ⟨rfl, ⟨comparison, named, rfl, rfl⟩, rfl⟩

end Planned

section

variable {matching : Matching} {criteria : List Criterion}

theorem exists_entries_of_plan {planned : List Planned}
    (made : plan matching criteria = .ok planned) :
    ∃ entries, List.Forall₂ (Planned.Describes matching) criteria entries ∧
      Ranking.IsStableSort Planned.score entries planned := by
  obtain ⟨entries, entered, same⟩ := bind_eq_ok.mp made
  cases same
  exact ⟨entries, (mapM_eq_ok.mp entered).imp fun _ _ => Planned.describes_of_entry,
    Ranking.isStableSort_ranked Planned.score entries⟩

theorem map_criterion_of_describes {entries : List Planned}
    (described : List.Forall₂ (Planned.Describes matching) criteria entries) :
    entries.map Planned.criterion = criteria := by
  have same := described.imp fun _ _ => Planned.Describes.criterion_eq
  exact List.forall₂_eq_eq_eq ▸ List.forall₂_map_left_iff.mpr same.flip

theorem expressionOf_of_several (several : criteria.length ≠ 1) :
    expressionOf matching criteria = do
      let planned ← plan matching criteria
      let leaves ← planned.mapM fun entry => Leaf.ofCriterion matching entry.criterion
      return .allOf true (leaves.map .leaf) := by
  match criteria, several with
  | [], _ => rfl
  | _ :: _ :: _, _ => rfl

end

/-- A plan is a stable sort of the criteria by their scores, and what is made of criteria that pass
their review runs the conditions in its order. -/
theorem plan_arranges (matching : Matching) (criteria : List Criterion) :
    (∀ planned, plan matching criteria = .ok planned →
      (planned.map Planned.criterion).Perm criteria ∧
      ∃ entries, List.Forall₂ (Planned.Describes matching) criteria entries ∧
        Ranking.IsStableSort Planned.score entries planned) ∧
    ((review matching criteria).valid = true → criteria.length ≠ 1 →
      ∃ planned leaves, plan matching criteria = .ok planned ∧
        planned.mapM (fun entry => Leaf.ofCriterion matching entry.criterion) = .ok leaves ∧
        ∃ expression, expressionOf matching criteria = .ok expression ∧
          expression.junction? = some .and ∧
          expression.executionOrder = leaves.map .leaf) := by
  constructor
  · intro planned made
    obtain ⟨entries, described, arranged⟩ := exists_entries_of_plan made
    have perm := arranged.perm.map Planned.criterion
    rw [map_criterion_of_describes described] at perm
    exact ⟨perm, entries, described, arranged⟩
  · intro valid several
    have each := Review.reviewFrom_valid.mp valid
    obtain ⟨planned, made, perm⟩ := plan_perm each
    obtain ⟨leaves, compiled⟩ := exists_mapM_eq_ok fun entry (member : entry ∈ planned) =>
      (each entry.criterion (perm.mem_iff.mp (List.mem_map_of_mem member))).elim fun _ passed =>
        Criterion.ofCriterion_of_check passed
    refine ⟨planned, leaves, made, compiled, .allOf true (leaves.map .leaf), ?_, rfl, rfl⟩
    rw [expressionOf_of_several several]
    exact bind_eq_ok.mpr ⟨planned, made, bind_eq_ok.mpr ⟨leaves, compiled, rfl⟩⟩

/-- The pattern is narrower than the list of levels and runs behind it, since it costs more; the two
criteria of the lowest score stay as they were given. -/
theorem plan_arranges_levels :
    let levels := ["trace", "debug", "info", "warn", "error", "fatal", "warning"]
    let criteria : List Criterion := [⟨"Message", "regex", .string "timeout$"⟩,
      ⟨"Level", "in", .array (levels.map .string)⟩, ⟨"pid", "equals", .integer 7⟩,
      ⟨"lvl", "=", .string "error"⟩]
    (review ⟨true⟩ criteria).valid = true ∧
      ∃ planned leaves, plan ⟨true⟩ criteria = .ok planned ∧
        planned.map (fun entry => entry.criterion.field) = ["pid", "lvl", "Level", "Message"] ∧
        planned.mapM (fun entry => Leaf.ofCriterion ⟨true⟩ entry.criterion) = .ok leaves ∧
        ∃ expression, expressionOf ⟨true⟩ criteria = .ok expression ∧
          expression.junction? = some .and ∧
          expression.executionOrder = leaves.map .leaf := by
  intro levels criteria
  have valid : (review ⟨true⟩ criteria).valid = true := by decide +kernel
  have fields : ((plan ⟨true⟩ criteria).map fun planned =>
      planned.map fun entry => entry.criterion.field).toOption =
        some ["pid", "lvl", "Level", "Message"] := by
    decide +kernel
  have several : criteria.length ≠ 1 := by decide
  obtain ⟨planned, leaves, made, compiled, runs⟩ := (plan_arranges ⟨true⟩ criteria).2 valid several
  rw [made] at fields
  exact ⟨valid, planned, leaves, made, Option.some.inj fields, compiled, runs⟩

end LogSieve
