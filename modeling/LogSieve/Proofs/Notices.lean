import LogSieve.Proofs.Timestamps
import LogSieve.Proofs.Verdict

/-! The warnings of a review. A warning is a notice behind the label of a criterion, and its text
tells which criterion it is about and what it says. So a warning is given just where a criterion
passes and its operand or one of those before it calls for it, and no warning is given twice. -/

namespace LogSieve

/-- What a review tells about a criterion that passes: a piece of advice about its operand, or the
position of the criterion that it repeats. -/
inductive Notice where
  | advice (text : String)
  | repeats (first : Nat)
  deriving DecidableEq, Repr

namespace Notice

def text : Notice → String
  | advice text => ": " ++ text
  | repeats first => " duplicates criterion " ++ toString first

def warning (place : Nat) (notice : Notice) : String := Review.label place ++ notice.text

theorem toList_label (place : Nat) :
    (Review.label place).toList = "Criterion ".toList ++ Nat.toDigits 10 place := by
  change ("Criterion " ++ toString place).toList = _
  rw [String.toList_append, Nat.toString_eq_repr, Nat.toList_repr]

theorem toList_advice (text : String) : (advice text).text.toList = ": ".toList ++ text.toList :=
  String.toList_append

theorem toList_repeats (first : Nat) :
    (repeats first).text.toList = " duplicates criterion ".toList ++ Nat.toDigits 10 first := by
  change (" duplicates criterion " ++ toString first).toList = _
  rw [String.toList_append, Nat.toString_eq_repr, Nat.toList_repr]

theorem toDigits_injective : Function.Injective (Nat.toDigits 10) :=
  Function.LeftInverse.injective (g := (Nat.ofDigitChars 10 · 0))
    fun _ => Nat.ofDigitChars_ten_toDigits

theorem toDigits_append_inj {m n : Nat} {rest rest' : List Char} (ends : Time.NoDigit rest)
    (ends' : Time.NoDigit rest')
    (same : Nat.toDigits 10 m ++ rest = Nat.toDigits 10 n ++ rest') : m = n ∧ rest = rest' := by
  have digit : ∀ n, ∀ c ∈ Nat.toDigits 10 n, c.isDigit = true := fun n c member =>
    Nat.isDigit_of_mem_toDigits (by decide) (by decide) member
  have split : ∀ n {rest}, Time.NoDigit rest →
      (Nat.toDigits 10 n ++ rest).dropWhile Char.isDigit = rest := by
    intro n rest ends
    rw [List.dropWhile_append_of_pos (digit n), Time.dropWhile_noDigit ends]
  have rests : rest = rest' := by rw [← split m ends, same, split n ends']
  subst rests
  exact ⟨toDigits_injective (List.append_cancel_right same), rfl⟩

theorem noDigit_text (notice : Notice) : Time.NoDigit notice.text.toList := by
  cases notice with
  | advice text =>
    have front : ": ".toList = [':', ' '] := by decide
    rw [toList_advice, front]
    rfl
  | repeats first =>
    have front : " duplicates criterion ".toList = ' ' :: "duplicates criterion ".toList := by
      decide
    rw [toList_repeats, front]
    rfl

theorem text_injective {notice other : Notice} (same : notice.text = other.text) :
    notice = other := by
  -- A colon or a blank at the front tells a piece of advice from a repetition.
  have chars : notice.text.toList = other.text.toList := by rw [same]
  cases notice with
  | advice text =>
    cases other with
    | advice text' =>
      rw [toList_advice, toList_advice] at chars
      rw [String.toList_inj.mp (List.append_cancel_left chars)]
    | repeats first =>
      rw [toList_advice, toList_repeats] at chars
      exact absurd (List.cons.inj chars).1 (by decide)
  | repeats first =>
    cases other with
    | advice text =>
      rw [toList_advice, toList_repeats] at chars
      exact absurd (List.cons.inj chars).1 (by decide)
    | repeats first' =>
      rw [toList_repeats, toList_repeats] at chars
      rw [toDigits_injective (List.append_cancel_left chars)]

theorem warning_inj {place place' : Nat} {notice notice' : Notice} :
    notice.warning place = notice'.warning place' ↔ place = place' ∧ notice = notice' := by
  constructor
  · intro same
    have chars : (notice.warning place).toList = (notice'.warning place').toList := by rw [same]
    rw [warning, warning, String.toList_append, String.toList_append, toList_label, toList_label,
      List.append_assoc, List.append_assoc] at chars
    obtain ⟨places, texts⟩ := toDigits_append_inj (noDigit_text notice) (noDigit_text notice')
      (List.append_cancel_left chars)
    exact ⟨places, text_injective (String.toList_inj.mp texts)⟩
  · rintro ⟨rfl, rfl⟩
    rfl

end Notice

namespace Reviewed

def asks (reviewed other : Reviewed) : Bool :=
  other.field = reviewed.field && other.operator = reviewed.operator &&
    Json.same other.value reviewed.value

def notices (seen : List Reviewed) (reviewed : Reviewed) : List Notice :=
  ((Review.advice reviewed.operator reviewed.value).map .advice).toList ++
    ((seen.find? reviewed.asks).map fun first => .repeats first.position).toList

variable {seen : List Reviewed} {reviewed : Reviewed}

theorem nodup_notices : (reviewed.notices seen).Nodup := by
  rw [notices]
  cases Review.advice reviewed.operator reviewed.value <;> cases seen.find? reviewed.asks <;> simp

theorem advice_mem_notices {text : String} :
    .advice text ∈ reviewed.notices seen ↔
      Review.advice reviewed.operator reviewed.value = some text := by
  simp [notices]

theorem repeats_mem_notices {first : Nat} :
    .repeats first ∈ reviewed.notices seen ↔
      ∃ other, seen.find? reviewed.asks = some other ∧ other.position = first := by
  simp [notices]

end Reviewed

namespace Review

variable {matching : Matching} {criteria : List Criterion} {position : Nat}

def passed (matching : Matching) (position : Nat) (criteria : List Criterion) : List Reviewed :=
  (criteria.zipIdx position).filterMap fun entry =>
    match entry.1.check matching with
    | .ok comparison => some ⟨entry.2, comparison.field, comparison.operator, entry.1.value⟩
    | .error _ => none

theorem passed_cons_of_ok {criterion : Criterion} {comparison : Comparison}
    (succeeded : criterion.check matching = .ok comparison) :
    passed matching position (criterion :: criteria) =
      ⟨position, comparison.field, comparison.operator, criterion.value⟩ ::
        passed matching (position + 1) criteria := by
  rw [passed, List.zipIdx_cons, List.filterMap_cons, succeeded]
  rfl

theorem passed_cons_of_error {criterion : Criterion} {problem : String}
    (failed : criterion.check matching = .error problem) :
    passed matching position (criterion :: criteria) =
      passed matching (position + 1) criteria := by
  rw [passed, List.zipIdx_cons, List.filterMap_cons, failed]
  rfl

theorem mem_passed {reviewed : Reviewed} :
    reviewed ∈ passed matching position criteria ↔
      ∃ criterion place leaf, (criterion, place) ∈ criteria.zipIdx position ∧
        Leaf.ofCriterion matching criterion = .ok leaf ∧
        reviewed = ⟨place, leaf.field, leaf.operator, criterion.value⟩ := by
  rw [passed, List.mem_filterMap]
  constructor
  · rintro ⟨⟨criterion, place⟩, member, given⟩
    dsimp only at given
    split at given
    · next comparison succeeded =>
      obtain ⟨leaf, made, field, operator⟩ := Criterion.leaf_of_check succeeded
      refine ⟨criterion, place, leaf, member, made, ?_⟩
      rw [field, operator, Option.some.inj given]
    · cases given
  · rintro ⟨criterion, place, leaf, member, made, rfl⟩
    obtain ⟨comparison, succeeded⟩ := Criterion.check_of_ofCriterion made
    obtain ⟨other, made', field, operator⟩ := Criterion.leaf_of_check succeeded
    obtain rfl : leaf = other := Except.ok.inj (made.symm.trans made')
    refine ⟨(criterion, place), member, ?_⟩
    dsimp only
    rw [succeeded, field, operator]

theorem le_position {reviewed : Reviewed} (member : reviewed ∈ passed matching position criteria) :
    position ≤ reviewed.position := by
  obtain ⟨criterion, place, leaf, placed, -, rfl⟩ := mem_passed.mp member
  exact List.le_snd_of_mem_zipIdx placed

theorem positions_increase :
    (passed matching position criteria).Pairwise fun first second =>
      first.position < second.position := by
  have places : ((criteria.zipIdx position).map Prod.snd).Pairwise (· < ·) := by
    rw [List.zipIdx_map_snd]
    exact List.pairwise_lt_range'
  refine List.pairwise_filterMap.mpr ((List.pairwise_map.mp places).imp ?_)
  intro first second less reviewed made reviewed' made'
  split at made
  · split at made'
    · cases made
      cases made'
      exact less
    · cases made'
  · cases made

def warningsFor (all : List Reviewed) (criteria : List Reviewed) : List String :=
  criteria.flatMap fun reviewed =>
    (reviewed.notices (all.filter fun other => other.position < reviewed.position)).map
      (Notice.warning reviewed.position)

theorem warningsFor_cons {all criteria : List Reviewed} {reviewed : Reviewed} :
    warningsFor all (reviewed :: criteria) =
      (reviewed.notices (all.filter fun other => other.position < reviewed.position)).map
        (Notice.warning reviewed.position) ++ warningsFor all criteria :=
  List.flatMap_cons

theorem map_notices {seen : List Reviewed} {comparison : Comparison} {value : Json} :
    (Reviewed.notices seen ⟨position, comparison.field, comparison.operator, value⟩).map
        (Notice.warning position) =
      ((advice comparison.operator value).map fun text => s!"{label position}: {text}").toList ++
        ((earlier? seen comparison value).map fun first =>
          s!"{label position} duplicates criterion {first}").toList := by
  have advised (text : String) :
      Notice.warning position (.advice text) = s!"{label position}: {text}" :=
    (String.append_assoc ..).symm
  have repeated (first : Nat) : Notice.warning position (.repeats first) =
      s!"{label position} duplicates criterion {first}" :=
    (String.append_assoc ..).symm
  rw [Reviewed.notices, List.map_append, earlier?, Option.map_map]
  simp only [← Option.toList_map, Option.map_map, Function.comp_def, advised, repeated]
  rfl

/-- What has been seen when a criterion is looked at are those that passed at smaller positions. -/
theorem reviewFrom_warnings {seen : List Reviewed}
    (early : ∀ reviewed ∈ seen, reviewed.position < position) :
    (reviewFrom matching position seen criteria).warnings =
      warningsFor (seen ++ passed matching position criteria)
        (passed matching position criteria) := by
  induction criteria generalizing position seen with
  | nil => rfl
  | cons criterion rest ih =>
    rw [reviewFrom]
    split
    · next problem failed =>
      rw [passed_cons_of_error failed]
      exact ih fun reviewed member => Nat.lt_succ_of_lt (early reviewed member)
    · next comparison succeeded =>
      let reviewed : Reviewed :=
        ⟨position, comparison.field, comparison.operator, criterion.value⟩
      have early' : ∀ other ∈ seen ++ [reviewed], other.position < position + 1 := by
        intro other member
        rcases List.mem_append.mp member with before | here
        · exact Nat.lt_succ_of_lt (early other before)
        · rw [List.mem_singleton.mp here]
          exact Nat.lt_succ_self position
      -- All others stand at this position or behind it, so the filter keeps what has been seen.
      have seenBefore : (seen ++ reviewed :: passed matching (position + 1) rest).filter
          (fun other => other.position < position) = seen := by
        have later : ∀ other ∈ reviewed :: passed matching (position + 1) rest,
            ¬ decide (other.position < position) = true := by
          intro other member
          rw [decide_eq_true_eq, Nat.not_lt]
          rcases List.mem_cons.mp member with rfl | behind
          · exact Nat.le_refl position
          · exact Nat.le_of_succ_le (le_position behind)
        rw [List.filter_append, List.filter_eq_self.mpr (by simpa using early),
          List.filter_eq_nil_iff.mpr later, List.append_nil]
      rw [passed_cons_of_ok succeeded, warningsFor_cons, seenBefore, map_notices,
        List.append_cons seen]
      exact congrArg _ (ih early')

theorem review_warnings (matching : Matching) (criteria : List Criterion) :
    (review matching criteria).warnings =
      warningsFor (passed matching 1 criteria) (passed matching 1 criteria) :=
  reviewFrom_warnings fun _ member => absurd member List.not_mem_nil

theorem warning_mem_warnings {notice : Notice} {place : Nat} :
    notice.warning place ∈ (review matching criteria).warnings ↔
      ∃ reviewed ∈ passed matching 1 criteria, reviewed.position = place ∧
        notice ∈ reviewed.notices
          ((passed matching 1 criteria).filter fun other => other.position < place) := by
  rw [review_warnings, warningsFor, List.mem_flatMap]
  refine exists_congr fun reviewed => and_congr_right fun _ => ?_
  rw [List.mem_map]
  constructor
  · rintro ⟨other, member, same⟩
    obtain ⟨rfl, rfl⟩ := Notice.warning_inj.mp same
    exact ⟨rfl, member⟩
  · rintro ⟨rfl, member⟩
    exact ⟨notice, member, rfl⟩

theorem nodup_warnings (matching : Matching) (criteria : List Criterion) :
    (review matching criteria).warnings.Nodup := by
  rw [review_warnings, warningsFor, List.nodup_flatMap]
  refine ⟨fun reviewed _ => ?_, positions_increase.imp fun less => ?_⟩
  · exact Reviewed.nodup_notices.map fun _ _ same => (Notice.warning_inj.mp same).2
  · rintro warning first second
    obtain ⟨notice, -, rfl⟩ := List.mem_map.mp first
    obtain ⟨other, -, same⟩ := List.mem_map.mp second
    exact absurd (Notice.warning_inj.mp same).1 (Nat.ne_of_gt less)

end Review

end LogSieve
