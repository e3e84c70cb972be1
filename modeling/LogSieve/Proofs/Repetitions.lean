import LogSieve.Proofs.Json.Sameness
import LogSieve.Proofs.Notices
import LogSieve.Proofs.Operands

/-! Criteria that repeat others. What a criterion asks for is the field and the operator that its
names stand for, and its operand; a criterion that passes is reported to repeat the first one of
those before it that pass and ask for the same. -/

namespace LogSieve

theorem Reviewed.find?_position {list : List Reviewed}
    (increase : list.Pairwise fun first second => first.position < second.position)
    {p : Reviewed → Bool} {first : Nat} :
    (∃ found, list.find? p = some found ∧ found.position = first) ↔
      ∃ found ∈ list, p found = true ∧ found.position = first ∧
        ∀ other ∈ list, p other = true → first ≤ other.position := by
  have least {found : Reviewed} (here : list.find? p = some found) :
      ∀ other ∈ list, p other = true → found.position ≤ other.position := by
    obtain ⟨-, before, behind, rfl, none⟩ := List.find?_eq_some_iff_append.mp here
    intro other member holds
    rcases List.mem_append.mp member with earlier | later
    · have fails := none other earlier
      rw [holds] at fails
      cases fails
    · rcases List.mem_cons.mp later with rfl | later
      · exact Nat.le_refl _
      · have inOrder := (List.pairwise_append.mp increase).2.1
        exact Nat.le_of_lt ((List.pairwise_cons.mp inOrder).1 other later)
  constructor
  · rintro ⟨found, here, rfl⟩
    exact ⟨found, List.mem_of_find?_eq_some here, List.find?_some here, rfl, least here⟩
  · rintro ⟨found, member, holds, rfl, smallest⟩
    obtain ⟨other, here⟩ := Option.isSome_iff_exists.mp
      (List.find?_isSome.mpr ⟨found, member, holds⟩)
    refine ⟨other, here, Nat.le_antisymm (least here found member holds) ?_⟩
    exact smallest other (List.mem_of_find?_eq_some here) (List.find?_some here)

namespace Criterion

variable {matching : Matching} {criterion later earlier : Criterion} {leaf leaf' : Leaf}

/-- Both criteria pass their review, their names stand for one field and one operator, and their
operands are equal. -/
structure Repeats (matching : Matching) (later earlier : Criterion) : Prop where
  laterPasses : (review matching [later]).valid = true
  earlierPasses : (review matching [earlier]).valid = true
  names : ∃ found, Catalog.resolve later.field later.operator = .ok found ∧
    Catalog.resolve earlier.field earlier.operator = .ok found
  operands : later.value = earlier.value

theorem passes_iff_ofCriterion :
    (review matching [criterion]).valid = true ↔
      ∃ leaf, Leaf.ofCriterion matching criterion = .ok leaf := by
  rw [Review.valid_iff_ofCriterion, List.forall_mem_singleton]

theorem exact_of_ofCriterion (made : Leaf.ofCriterion matching criterion = .ok leaf) :
    criterion.value.Exact := by
  obtain ⟨comparison, test, -, tested, -⟩ := Leaf.ofCriterion_eq_ok.mp made
  exact (storable_of_simple (Comparison.simple_of_test tested)).exact

theorem repeats_iff_asks (made : Leaf.ofCriterion matching later = .ok leaf)
    (made' : Leaf.ofCriterion matching earlier = .ok leaf') {place before : Nat} :
    later.Repeats matching earlier ↔
      Reviewed.asks ⟨place, leaf.field, leaf.operator, later.value⟩
        ⟨before, leaf'.field, leaf'.operator, earlier.value⟩ = true := by
  have resolved := Leaf.resolve_of_ofCriterion made
  have resolved' := Leaf.resolve_of_ofCriterion made'
  simp only [Reviewed.asks, Bool.and_eq_true, decide_eq_true_eq,
    Json.same_iff_eq (exact_of_ofCriterion made')]
  constructor
  · rintro ⟨-, -, ⟨found, names, names'⟩, operands⟩
    have same := resolved'.symm.trans (names'.trans (names.symm.trans resolved))
    exact ⟨Prod.mk.inj (Except.ok.inj same), operands.symm⟩
  · rintro ⟨⟨field, operator⟩, operands⟩
    rw [field, operator] at resolved'
    exact ⟨passes_iff_ofCriterion.mpr ⟨leaf, made⟩, passes_iff_ofCriterion.mpr ⟨leaf', made'⟩,
      ⟨_, resolved, resolved'⟩, operands.symm⟩

end Criterion

namespace Review

variable {matching : Matching} {criteria : List Criterion} {place first : Nat}

theorem eq_of_mem_zipIdx {criterion other : Criterion}
    (here : (criterion, place) ∈ criteria.zipIdx 1)
    (here' : (other, place) ∈ criteria.zipIdx 1) : criterion = other := by
  have found := (List.mk_mem_zipIdx_iff_le_and_getElem?_sub.mp here).2
  rw [(List.mk_mem_zipIdx_iff_le_and_getElem?_sub.mp here').2] at found
  exact (Option.some.inj found).symm

theorem repeats_mem_warnings :
    (Notice.repeats first).warning place ∈ (review matching criteria).warnings ↔
      ∃ later earlier, (later, place) ∈ criteria.zipIdx 1 ∧
        (earlier, first) ∈ criteria.zipIdx 1 ∧ first < place ∧ later.Repeats matching earlier ∧
        ∀ other before, (other, before) ∈ criteria.zipIdx 1 → later.Repeats matching other →
          first ≤ before := by
  have increase := (@positions_increase matching criteria 1).filter fun other =>
    other.position < place
  rw [warning_mem_warnings]
  simp only [Reviewed.repeats_mem_notices, Reviewed.find?_position increase, List.mem_filter,
    decide_eq_true_eq]
  constructor
  · rintro ⟨reviewed, member, rfl, found, ⟨member', less⟩, asks, rfl, least⟩
    obtain ⟨later, place, leaf, placed, made, rfl⟩ := mem_passed.mp member
    obtain ⟨earlier, first, leaf', placed', made', rfl⟩ := mem_passed.mp member'
    refine ⟨later, earlier, placed, placed', less,
      (Criterion.repeats_iff_asks made made').mpr asks, fun other before here repeated => ?_⟩
    -- A criterion behind the later one does not compete: the earlier one stands before both.
    by_cases inside : before < place
    · obtain ⟨leaf'', made''⟩ := Criterion.passes_iff_ofCriterion.mp repeated.earlierPasses
      exact least ⟨before, leaf''.field, leaf''.operator, other.value⟩
        ⟨mem_passed.mpr ⟨other, before, leaf'', here, made'', rfl⟩, inside⟩
        ((Criterion.repeats_iff_asks made made'').mp repeated)
    · exact Nat.le_of_lt (Nat.lt_of_lt_of_le less (Nat.le_of_not_lt inside))
  · rintro ⟨later, earlier, placed, placed', less, repeated, least⟩
    obtain ⟨leaf, made⟩ := Criterion.passes_iff_ofCriterion.mp repeated.laterPasses
    obtain ⟨leaf', made'⟩ := Criterion.passes_iff_ofCriterion.mp repeated.earlierPasses
    refine ⟨⟨place, leaf.field, leaf.operator, later.value⟩,
      mem_passed.mpr ⟨later, place, leaf, placed, made, rfl⟩, rfl,
      ⟨first, leaf'.field, leaf'.operator, earlier.value⟩,
      ⟨mem_passed.mpr ⟨earlier, first, leaf', placed', made', rfl⟩, less⟩,
      (Criterion.repeats_iff_asks made made').mp repeated, rfl, ?_⟩
    rintro other ⟨member, -⟩ asks
    obtain ⟨criterion, before, leaf'', here, made'', rfl⟩ := mem_passed.mp member
    exact least criterion before here ((Criterion.repeats_iff_asks made made'').mpr asks)

theorem existsUnique_repeats {later earlier : Criterion} {before : Nat}
    (placed : (later, place) ∈ criteria.zipIdx 1) (placed' : (earlier, before) ∈ criteria.zipIdx 1)
    (less : before < place) (repeated : later.Repeats matching earlier) :
    ∃! first, (Notice.repeats first).warning place ∈ (review matching criteria).warnings := by
  classical
  have some : ∃ before earlier, (earlier, before) ∈ criteria.zipIdx 1 ∧
      later.Repeats matching earlier := ⟨before, earlier, placed', repeated⟩
  obtain ⟨found, here, same⟩ := Nat.find_spec some
  have least {other : Criterion} {before : Nat} (here : (other, before) ∈ criteria.zipIdx 1)
      (repeated : later.Repeats matching other) : Nat.find some ≤ before :=
    Nat.find_min' some ⟨other, here, repeated⟩
  refine ⟨Nat.find some, repeats_mem_warnings.mpr ⟨later, found, placed, here,
    Nat.lt_of_le_of_lt (least placed' repeated) less, same,
    fun other before here repeated => least here repeated⟩, fun first reported => ?_⟩
  obtain ⟨later', earlier', placed', here', -, same', smallest⟩ := repeats_mem_warnings.mp reported
  obtain rfl := eq_of_mem_zipIdx placed placed'
  exact Nat.le_antisymm (smallest found _ here same) (least here' same')

end Review

/-- The reports of repeated criteria are exact. A criterion is reported to repeat another just where
both pass and ask for the same and the other is the first one of this kind; it is reported once. -/
theorem review_repetitions (matching : Matching) (criteria : List Criterion) :
    let warnings := (review matching criteria).warnings
    let reported := fun place first : Nat => s!"{Review.label place} duplicates criterion {first}"
    (∀ place first, reported place first ∈ warnings ↔
      ∃ later earlier, (later, place) ∈ criteria.zipIdx 1 ∧
        (earlier, first) ∈ criteria.zipIdx 1 ∧ first < place ∧ later.Repeats matching earlier ∧
        ∀ other before, (other, before) ∈ criteria.zipIdx 1 → later.Repeats matching other →
          first ≤ before) ∧
    (∀ place, (∃! first, reported place first ∈ warnings) ↔
      ∃ later earlier before, (later, place) ∈ criteria.zipIdx 1 ∧
        (earlier, before) ∈ criteria.zipIdx 1 ∧ before < place ∧ later.Repeats matching earlier) ∧
    warnings.Nodup := by
  intro warnings reported
  have same : reported = fun place first => (Notice.repeats first).warning place :=
    funext fun place => funext fun first => String.append_assoc ..
  simp only [same]
  refine ⟨fun place first => Review.repeats_mem_warnings, fun place => ⟨?_, ?_⟩,
    Review.nodup_warnings matching criteria⟩
  · rintro ⟨first, given, -⟩
    obtain ⟨later, earlier, placed, placed', less, repeated, -⟩ :=
      Review.repeats_mem_warnings.mp given
    exact ⟨later, earlier, first, placed, placed', less, repeated⟩
  · rintro ⟨later, earlier, before, placed, placed', less, repeated⟩
    exact Review.existsUnique_repeats placed placed' less repeated

example :
    let named (field operator : String) : Criterion := ⟨field, operator, .string "disk"⟩
    (review ⟨false⟩ [named "Severity" "equals", named "msg" "contains", named "Message" "nears",
      named " MESSAGE" "Contains", named "message" "contains "]).warnings =
      ["Criterion 4 duplicates criterion 2", "Criterion 5 duplicates criterion 2"] := by
  decide +kernel

end LogSieve
