import LogSieve.Proofs.FlatFilter

/-! A review and the making of an expression come to the same verdict. A criterion passes the check
just when a condition can be made of it, so the errors of a review are those of the criteria of
which none can be made, and a source is refused for these errors and for no other reason. -/

namespace LogSieve

namespace Field

theorem ofText?_blank {text : String} (blank : (Text.trim text.toList).isEmpty = true) :
    ofText? text = none := by
  have empty : Text.trimmed text = "" := by
    rw [Text.trimmed, List.isEmpty_iff.mp blank, String.ofList_nil]
  rw [ofText?, empty]
  decide

end Field

namespace Operator

theorem ofText?_blank {text : String} (blank : (Text.trim text.toList).isEmpty = true) :
    ofText? text = none := by
  have empty : Text.trimmed text = "" := by
    rw [Text.trimmed, List.isEmpty_iff.mp blank, String.ofList_nil]
  rw [ofText?, empty]
  decide

end Operator

namespace Catalog

theorem ofText?_of_resolve {field operator : String} {found : Field × Operator}
    (resolved : resolve field operator = .ok found) :
    Field.ofText? field = some found.1 ∧ Operator.ofText? operator = some found.2 := by
  obtain ⟨known, parsed, chosen⟩ := bind_eq_ok.mp resolved
  unfold Field.parse at parsed
  split at parsed
  · next named =>
    cases parsed
    split at chosen
    · next operatorNamed =>
      split at chosen
      · cases chosen
        exact ⟨named, operatorNamed⟩
      · cases chosen
    · cases chosen
  · cases parsed

end Catalog

namespace Leaf

variable {matching : Matching} {criterion : Criterion} {leaf : Leaf}

theorem ofCriterion_eq_ok :
    ofCriterion matching criterion = .ok leaf ↔
      ∃ comparison test, Comparison.named matching criterion.field criterion.operator =
          .ok comparison ∧
        comparison.test criterion.value = .ok test ∧
        leaf = ⟨comparison.field, comparison.operator, criterion.value, test.accepts⟩ := by
  constructor
  · intro made
    obtain ⟨comparison, named, compiled⟩ := bind_eq_ok.mp made
    obtain ⟨test, tested, same⟩ := bind_eq_ok.mp compiled
    exact ⟨comparison, test, named, tested, (Except.ok.inj same).symm⟩
  · rintro ⟨comparison, test, named, tested, rfl⟩
    exact bind_eq_ok.mpr ⟨comparison, named, bind_eq_ok.mpr ⟨test, tested, rfl⟩⟩

theorem resolve_of_ofCriterion (made : ofCriterion matching criterion = .ok leaf) :
    Catalog.resolve criterion.field criterion.operator = .ok (leaf.field, leaf.operator) := by
  obtain ⟨comparison, test, named, -, rfl⟩ := ofCriterion_eq_ok.mp made
  obtain ⟨found, resolved, chosen⟩ := bind_eq_ok.mp named
  dsimp only [Comparison.make] at chosen
  split_ifs at chosen
  cases chosen
  exact resolved

end Leaf

namespace Criterion

variable {matching : Matching} {criterion : Criterion}

def problem? (matching : Matching) (criterion : Criterion) : Option String :=
  match criterion.check matching with
  | .ok _ => none
  | .error problem => some problem

theorem problem?_eq_none :
    criterion.problem? matching = none ↔
      ∃ comparison, criterion.check matching = .ok comparison := by
  unfold problem?
  split <;> simp_all

theorem check_of_ofCriterion {leaf : Leaf} (made : Leaf.ofCriterion matching criterion = .ok leaf) :
    ∃ comparison, criterion.check matching = .ok comparison := by
  obtain ⟨comparison, named, compiled⟩ := bind_eq_ok.mp made
  obtain ⟨test, tested, -⟩ := bind_eq_ok.mp compiled
  obtain ⟨found, resolved, -⟩ := bind_eq_ok.mp named
  obtain ⟨field, operator⟩ := Catalog.ofText?_of_resolve resolved
  have fieldGiven : ¬ (Text.trim criterion.field.toList).isEmpty = true := fun blank => by
    rw [Field.ofText?_blank blank] at field
    cases field
  have operatorGiven : ¬ (Text.trim criterion.operator.toList).isEmpty = true := fun blank => by
    rw [Operator.ofText?_blank blank] at operator
    cases operator
  have fieldKnown : Catalog.isField criterion.field = true := by
    rw [Catalog.isField, field, Option.isSome_some]
  have operatorKnown : Catalog.isOperator criterion.field criterion.operator = true := by
    rw [Catalog.isOperator, resolved]
    rfl
  refine ⟨comparison, ?_⟩
  rw [check, if_neg fieldGiven, if_neg operatorGiven, fieldKnown, operatorKnown]
  simp only [Bool.not_true, Bool.false_eq_true, ↓reduceIte, named, tested]

theorem leaf_of_check {comparison : Comparison}
    (passed : criterion.check matching = .ok comparison) :
    ∃ leaf, Leaf.ofCriterion matching criterion = .ok leaf ∧ leaf.field = comparison.field ∧
      leaf.operator = comparison.operator := by
  obtain ⟨named, test, tested⟩ := named_of_check passed
  exact ⟨_, Leaf.ofCriterion_eq_ok.mpr ⟨comparison, test, named, tested, rfl⟩, rfl, rfl⟩

theorem problem?_eq_none_iff_ofCriterion :
    criterion.problem? matching = none ↔ ∃ leaf, Leaf.ofCriterion matching criterion = .ok leaf :=
  problem?_eq_none.trans
    ⟨fun ⟨_, passed⟩ => ofCriterion_of_check passed, fun ⟨_, made⟩ => check_of_ofCriterion made⟩

end Criterion

namespace Review

variable {matching : Matching}

def labelled (position : Nat) (problem : String) : String := s!"{label position}: {problem}"

theorem reviewFrom_errors (position : Nat) (seen : List Reviewed) (criteria : List Criterion) :
    (reviewFrom matching position seen criteria).errors =
      (criteria.zipIdx position).filterMap fun entry =>
        (entry.1.problem? matching).map (labelled entry.2) := by
  induction criteria generalizing position seen with
  | nil => rfl
  | cons criterion rest ih =>
    rw [reviewFrom, List.zipIdx_cons, List.filterMap_cons, Criterion.problem?]
    split
    · next problem failed =>
      rw [failed]
      exact congrArg (List.cons _) (ih (position + 1) seen)
    · next comparison passed =>
      rw [passed]
      exact ih (position + 1) _

theorem valid_iff_ofCriterion {criteria : List Criterion} :
    (review matching criteria).valid = true ↔
      ∀ criterion ∈ criteria, ∃ leaf, Leaf.ofCriterion matching criterion = .ok leaf := by
  rw [review, reviewFrom_valid]
  refine forall₂_congr fun criterion _ => ?_
  rw [← Criterion.problem?_eq_none, Criterion.problem?_eq_none_iff_ofCriterion]

theorem valid_iff_errors {criteria : List Criterion} :
    (review matching criteria).valid = true ↔ (review matching criteria).errors = [] := by
  have placed : (criteria.zipIdx 1).map Prod.fst = criteria := List.zipIdx_map_fst 1 criteria
  rw [review, reviewFrom_valid, reviewFrom_errors, List.filterMap_eq_nil_iff]
  simp only [Option.map_eq_none_iff, Criterion.problem?_eq_none]
  conv_lhs => rw [← placed]
  exact List.forall_mem_map

end Review

section Making

variable {matching : Matching} {criteria : List Criterion}

theorem ofCriterion_of_expressionOf {expression : Expression}
    (made : expressionOf matching criteria = .ok expression) :
    ∀ criterion ∈ criteria, ∃ leaf, Leaf.ofCriterion matching criterion = .ok leaf := by
  unfold expressionOf at made
  split at made
  · next criterion =>
    obtain ⟨leaf, compiled, -⟩ := bind_eq_ok.mp made
    intro other member
    rw [List.mem_singleton.mp member]
    exact ⟨leaf, compiled⟩
  · obtain ⟨planned, ordered, rest⟩ := bind_eq_ok.mp made
    obtain ⟨leaves, compiled, -⟩ := bind_eq_ok.mp rest
    obtain ⟨entries, entered, same⟩ := bind_eq_ok.mp ordered
    cases same
    intro criterion member
    obtain ⟨entry, known, entered⟩ := exists_of_mapM_eq_ok entered member
    have inOrder : entry ∈ Ranking.ranked Planned.rank entries :=
      (Ranking.ranked_perm Planned.rank entries).mem_iff.mpr known
    obtain ⟨leaf, -, made⟩ := exists_of_mapM_eq_ok compiled inOrder
    rw [Criterion.criterion_of_entry entered] at made
    exact ⟨leaf, made⟩

/-- A review passes just when an expression can be made. -/
theorem valid_iff_expressionOf :
    (review matching criteria).valid = true ↔
      ∃ expression, expressionOf matching criteria = .ok expression := by
  rw [Review.valid_iff_ofCriterion]
  constructor
  · intro each
    obtain ⟨leaves, compiled⟩ := exists_mapM_eq_ok each
    obtain ⟨expression, made, -⟩ := expressionOf_results
      (fun criterion member => (each criterion member).elim fun _ made =>
        Criterion.check_of_ofCriterion made) compiled
    exact ⟨expression, made⟩
  · rintro ⟨expression, made⟩
    exact ofCriterion_of_expressionOf made

theorem sieve_eq_error {source : Flow} {error : FilterError} :
    sieve matching criteria source = .error error ↔
      (review matching criteria).valid = false ∧
        error = .invalidCriteria (review matching criteria).errors := by
  cases verdict : (review matching criteria).valid with
  | true =>
    obtain ⟨expression, made⟩ := valid_iff_expressionOf.mp verdict
    have taken : sieve matching criteria source = .ok (expression.apply source) := by
      rw [sieve, if_pos verdict]
      exact bind_eq_ok.mpr ⟨expression, made, rfl⟩
    rw [taken]
    constructor
    · intro impossible
      cases impossible
    · rintro ⟨impossible, -⟩
      cases impossible
  | false =>
    have refused : sieve matching criteria source =
        .error (.invalidCriteria (review matching criteria).errors) := by
      rw [sieve, if_neg (Bool.eq_false_iff.mp verdict)]
      rfl
    rw [refused, Except.error.injEq, eq_comm]
    exact ⟨fun same => ⟨rfl, same⟩, And.right⟩

end Making

/-- A review, the making of an expression and the making of every single condition come to one
verdict. The errors of the review are those that the criteria have on their own, each behind the
label of its position, and a source is refused for precisely these errors. -/
theorem review_verdict (matching : Matching) (criteria : List Criterion) :
    let found := review matching criteria
    (found.valid = true ↔ found.errors = []) ∧
    (found.valid = true ↔ ∃ expression, expressionOf matching criteria = .ok expression) ∧
    (found.valid = true ↔
      ∀ criterion ∈ criteria, ∃ leaf, Leaf.ofCriterion matching criterion = .ok leaf) ∧
    (found.errors = (criteria.zipIdx 1).filterMap fun entry =>
      (entry.1.problem? matching).map (Review.labelled entry.2)) ∧
    (∀ criterion, (review matching [criterion]).errors =
        ((criterion.problem? matching).map (Review.labelled 1)).toList ∧
      (criterion.problem? matching = none ↔
        ∃ leaf, Leaf.ofCriterion matching criterion = .ok leaf)) ∧
    ∀ source error, sieve matching criteria source = .error error ↔
      error = .invalidCriteria found.errors ∧
        ∃ criterion ∈ criteria, ¬ ∃ leaf, Leaf.ofCriterion matching criterion = .ok leaf := by
  intro found
  refine ⟨Review.valid_iff_errors, valid_iff_expressionOf, Review.valid_iff_ofCriterion,
    Review.reviewFrom_errors 1 [] criteria,
    fun criterion => ⟨?_, Criterion.problem?_eq_none_iff_ofCriterion⟩, fun source error => ?_⟩
  · rw [review, Review.reviewFrom_errors, List.zipIdx_cons, List.zipIdx_nil, List.filterMap_cons]
    cases (criterion.problem? matching).map (Review.labelled 1) <;> rfl
  · have invalid : found.valid = false ↔
        ∃ criterion ∈ criteria, ¬ ∃ leaf, Leaf.ofCriterion matching criterion = .ok leaf := by
      rw [← Bool.not_eq_true, Review.valid_iff_ofCriterion]
      simp only [not_forall, exists_prop]
    rw [sieve_eq_error, ← invalid, and_comm]

end LogSieve
