import LogSieve.Proofs.Documents
import LogSieve.Proofs.FlatFilter

/-! Operands that pass the check are simple: a text or an integer, or a list of such. So a filter
that is valid can be stored, and its document gives it back. -/

namespace LogSieve

namespace Json

def IsPlain : Json → Prop
  | .string _ => True
  | .integer n => IntegerRange n
  | _ => False

def IsSimple (value : Json) : Prop :=
  value.IsPlain ∨ ∃ items, value = .array items ∧ ∀ item ∈ items, item.IsPlain

theorem IsPlain.exact {value : Json} (plain : value.IsPlain) : value.Exact := by
  cases value <;> first | exact plain | exact plain.elim

theorem IsPlain.ordered {value : Json} (plain : value.IsPlain) : value.Ordered := by
  cases value <;> first | exact trivial | exact plain.elim

theorem IsPlain.depth_eq {value : Json} (plain : value.IsPlain) : value.depth = 0 := by
  cases value <;> first | rfl | exact plain.elim

theorem plainItems {items : List Json} (plain : ∀ item ∈ items, item.IsPlain) :
    ExactItems items ∧ OrderedItems items ∧ depthItems items = 0 := by
  induction items with
  | nil => exact ⟨trivial, trivial, rfl⟩
  | cons item rest ih =>
    obtain ⟨first, later⟩ := List.forall_mem_cons.mp plain
    obtain ⟨exact', ordered, depth⟩ := ih later
    refine ⟨⟨first.exact, exact'⟩, ⟨first.ordered, ordered⟩, ?_⟩
    rw [depthItems, first.depth_eq, depth]
    rfl

end Json

namespace Criterion

theorem storable_of_simple {criterion : Criterion} (simple : criterion.value.IsSimple) :
    criterion.Storable := by
  rcases simple with plain | ⟨items, same, plain⟩
  · exact ⟨plain.exact, plain.ordered, plain.depth_eq ▸ Nat.zero_le _⟩
  · obtain ⟨exact', ordered, depth⟩ := Json.plainItems plain
    refine ⟨same ▸ exact', same ▸ ordered, ?_⟩
    rw [same, Json.depth, depth]
    decide

end Criterion

namespace Comparison

variable {α : Type} {value : Json}

theorem plain_of_readLevel {level : Level} (read : readLevel value = .ok level) :
    value.IsPlain := by
  cases value <;> first | exact trivial | cases read

theorem plain_of_readInstant {instant : Time.Instant} (read : readInstant value = .ok instant) :
    value.IsPlain := by
  cases value <;> first | exact trivial | cases read

theorem plain_of_readMember {caseSensitive : Bool} {text : String}
    (read : readMember caseSensitive value = .ok text) : value.IsPlain := by
  cases value <;> first | exact trivial | cases read

theorem plain_of_readProcessId {id : Nat} (read : readProcessId value = .ok id) :
    value.IsPlain := by
  cases value with
  | string => exact trivial
  | integer n =>
    rw [readProcessId, processId?] at read
    split at read
    · next found known =>
      split_ifs at known with natural
      cases known
      split_ifs at read with small
      rw [processIdLimit] at small
      exact ⟨by omega, by omega⟩
    · cases read
  | _ => cases read

theorem plain_of_readItems {read : Json → Except String α} {items : List Json} {found : List α}
    (plain : ∀ {value result}, read value = .ok result → value.IsPlain)
    (given : readItems value = .ok items) (each : items.mapM read = .ok found) :
    value.IsSimple := by
  have same : value = .array items := by
    unfold readItems at given
    split at given
    · cases given
    · exact congrArg Json.array (Except.ok.inj given)
    · cases given
  refine .inr ⟨items, same, fun item member => ?_⟩
  obtain ⟨result, -, succeeded⟩ := exists_of_mapM_eq_ok each member
  exact plain succeeded

theorem simple_of_readOperand {less : α → α → Bool} {read : Json → Except String α}
    (plain : ∀ {value result}, read value = .ok result → value.IsPlain) {operator : Operator}
    {operand : Operand α} (made : readOperand less read operator value = .ok operand) :
    value.IsSimple := by
  unfold readOperand at made
  split at made
  · split at made
    · next low high =>
      obtain ⟨_, first, made⟩ := bind_eq_ok.mp made
      obtain ⟨_, second, -⟩ := bind_eq_ok.mp made
      exact .inr ⟨_, rfl, by simpa using ⟨plain first, plain second⟩⟩
    · cases made
  · obtain ⟨items, given, made⟩ := bind_eq_ok.mp made
    obtain ⟨found, each, -⟩ := bind_eq_ok.mp made
    exact plain_of_readItems plain given each
  · obtain ⟨items, given, made⟩ := bind_eq_ok.mp made
    obtain ⟨found, each, -⟩ := bind_eq_ok.mp made
    exact plain_of_readItems plain given each
  · obtain ⟨result, succeeded, -⟩ := bind_eq_ok.mp made
    exact .inl (plain succeeded)

theorem simple_of_readText {field : Field} {operator : Operator} {matching : Matching}
    {test : Test} (made : readText field operator matching value = .ok test) :
    value.IsSimple := by
  unfold readText at made
  dsimp only at made
  split at made
  · obtain ⟨items, given, made⟩ := bind_eq_ok.mp made
    obtain ⟨found, each, -⟩ := bind_eq_ok.mp made
    exact plain_of_readItems plain_of_readMember given each
  · obtain ⟨items, given, made⟩ := bind_eq_ok.mp made
    obtain ⟨found, each, -⟩ := bind_eq_ok.mp made
    exact plain_of_readItems plain_of_readMember given each
  · split at made
    · exact .inl trivial
    · cases made
  · split at made
    · exact .inl trivial
    · cases made

theorem readTest_of_test {comparison : Comparison} {test : Test}
    (made : comparison.test value = .ok test) : comparison.readTest value = .ok test := by
  unfold Comparison.test at made
  split at made
  · next read =>
    cases made
    exact read
  · cases made

theorem simple_of_test {comparison : Comparison} {test : Test}
    (made : comparison.test value = .ok test) : value.IsSimple := by
  have read := readTest_of_test made
  unfold readTest at read
  dsimp only at read
  split at read
  · obtain ⟨operand, made, -⟩ := map_eq_ok.mp read
    exact simple_of_readOperand plain_of_readLevel made
  · obtain ⟨operand, made, -⟩ := map_eq_ok.mp read
    exact simple_of_readOperand plain_of_readProcessId made
  · obtain ⟨operand, made, -⟩ := map_eq_ok.mp read
    exact simple_of_readOperand plain_of_readInstant made
  · exact simple_of_readText read
  · exact simple_of_readText read
  · exact simple_of_readText read

end Comparison

theorem Review.storable_of_valid {matching : Matching} {criteria : List Criterion}
    (valid : (review matching criteria).valid = true) :
    ∀ criterion ∈ criteria, criterion.Storable := by
  intro criterion member
  obtain ⟨comparison, passed⟩ := Review.reviewFrom_valid.mp valid criterion member
  obtain ⟨-, test, tested⟩ := Criterion.named_of_check passed
  exact Criterion.storable_of_simple (Comparison.simple_of_test tested)

end LogSieve
