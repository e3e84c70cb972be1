import LogSieve.Pattern.Escape
import LogSieve.Proofs.Ranking

/-! What the operations on character sets hold. A normal list says with its gaps what is outside, so
everything rests on the joining of intervals: it keeps the characters and leaves a gap between any
two intervals. -/

namespace LogSieve

namespace Text.Intervals

@[simp] theorem contains_nil (code : Nat) : contains [] code = false := rfl

@[simp] theorem contains_cons (interval : Nat × Nat) (set : Intervals) (code : Nat) :
    contains (interval :: set) code =
      ((interval.1 ≤ code && code ≤ interval.2) || set.contains code) := rfl

@[simp] theorem contains_append (a b : Intervals) (code : Nat) :
    contains (a ++ b) code = (a.contains code || b.contains code) :=
  List.any_append

def Valid (set : Intervals) : Prop := ∀ interval ∈ set, interval.1 ≤ interval.2

/-- There is a gap between any two intervals, so the characters outside stand in the gaps. -/
structure IsNormal (set : Intervals) : Prop where
  valid : set.Valid
  spread : set.Pairwise fun a b => a.2 + 1 < b.1

theorem isNormal_cons {interval : Nat × Nat} {set : Intervals} :
    IsNormal (interval :: set) ↔ interval.1 ≤ interval.2 ∧
      (∀ other ∈ set, interval.2 + 1 < other.1) ∧ IsNormal set := by
  constructor
  · rintro ⟨valid, spread⟩
    obtain ⟨apart, spread⟩ := List.pairwise_cons.mp spread
    obtain ⟨first, valid⟩ := List.forall_mem_cons.mp valid
    exact ⟨first, apart, valid, spread⟩
  · rintro ⟨first, apart, valid, spread⟩
    exact ⟨List.forall_mem_cons.mpr ⟨first, valid⟩, List.pairwise_cons.mpr ⟨apart, spread⟩⟩

/-! ### Normal lists -/

theorem contains_absorb {interval : Nat × Nat} {set : Intervals}
    (least : ∀ other ∈ set, interval.1 ≤ other.1) (code : Nat) :
    (absorb interval set).contains code = contains (interval :: set) code := by
  induction set generalizing interval with
  | nil => rfl
  | cons next rest ih =>
    obtain ⟨below, least⟩ := List.forall_mem_cons.mp least
    rw [absorb]
    split
    · next touches =>
      have joined : (interval.1 ≤ code ∧ code ≤ max interval.2 next.2) ↔
          (interval.1 ≤ code ∧ code ≤ interval.2) ∨ (next.1 ≤ code ∧ code ≤ next.2) := by
        omega
      rw [@ih (interval.1, max interval.2 next.2) least, Bool.eq_iff_iff]
      simp only [contains_cons, Bool.or_eq_true, Bool.and_eq_true, decide_eq_true_eq, joined,
        or_assoc]
    · rfl

theorem start_of_mem_absorb {interval other : Nat × Nat} {set : Intervals}
    (member : other ∈ absorb interval set) : other.1 = interval.1 ∨ other ∈ set := by
  induction set generalizing interval with
  | nil => exact .inl (congrArg Prod.fst (List.mem_singleton.mp member))
  | cons next rest ih =>
    rw [absorb] at member
    split at member
    · exact (ih member).imp_right (List.mem_cons_of_mem _)
    · rcases List.mem_cons.mp member with rfl | member
      · exact .inl rfl
      · exact .inr member

theorem IsNormal.absorb {interval : Nat × Nat} {set : Intervals} (normal : IsNormal set)
    (valid : interval.1 ≤ interval.2) : IsNormal (absorb interval set) := by
  induction set generalizing interval with
  | nil => exact isNormal_cons.mpr ⟨valid, nofun, normal⟩
  | cons next rest ih =>
    obtain ⟨first, apart, later⟩ := isNormal_cons.mp normal
    rw [Intervals.absorb]
    split
    · exact ih later (Nat.le_trans valid (Nat.le_max_left _ _))
    · refine isNormal_cons.mpr ⟨valid, List.forall_mem_cons.mpr ⟨by omega, ?_⟩, normal⟩
      intro other member
      have beyond := apart other member
      omega

theorem start_of_mem_merge {other : Nat × Nat} {set : Intervals} (member : other ∈ merge set) :
    ∃ interval ∈ set, other.1 = interval.1 := by
  induction set with
  | nil => exact absurd member List.not_mem_nil
  | cons interval rest ih =>
    rcases start_of_mem_absorb member with same | member
    · exact ⟨interval, List.mem_cons_self, same⟩
    · obtain ⟨found, inside, same⟩ := ih member
      exact ⟨found, List.mem_cons_of_mem _ inside, same⟩

theorem contains_merge {set : Intervals} (sorted : set.Pairwise fun a b => a.1 ≤ b.1)
    (code : Nat) : (merge set).contains code = set.contains code := by
  induction set with
  | nil => rfl
  | cons interval rest ih =>
    obtain ⟨least, sorted⟩ := List.pairwise_cons.mp sorted
    have least : ∀ other ∈ merge rest, interval.1 ≤ other.1 := by
      intro other member
      obtain ⟨found, inside, same⟩ := start_of_mem_merge member
      exact same ▸ least found inside
    rw [merge, contains_absorb least, contains_cons, ih sorted, contains_cons]

theorem isNormal_merge {set : Intervals} (valid : set.Valid) : IsNormal (merge set) := by
  induction set with
  | nil => exact ⟨nofun, .nil⟩
  | cons interval rest ih =>
    obtain ⟨first, valid⟩ := List.forall_mem_cons.mp valid
    exact (ih valid).absorb first

theorem contains_normal (set : Intervals) (code : Nat) :
    (normal set).contains code = set.contains code := by
  rw [normal, contains_merge (Ranking.ranked_pairwise _ set)]
  exact (Ranking.ranked_perm _ set).any_eq

theorem isNormal_normal {set : Intervals} (valid : set.Valid) : IsNormal (normal set) :=
  isNormal_merge fun _ member => valid _ ((Ranking.ranked_perm _ set).mem_iff.mp member)

/-! ### Complements -/

theorem contains_eq_false_of_lt {set : Intervals} {code : Nat}
    (beyond : ∀ interval ∈ set, code < interval.1) : set.contains code = false := by
  rw [contains, List.any_eq_false]
  intro interval member inside
  have below : interval.1 ≤ code := (by simpa using inside : _ ∧ _).1
  exact absurd (beyond interval member) (Nat.not_lt_of_le below)

theorem contains_gaps {set : Intervals} (normal : IsNormal set) {start code : Nat}
    (least : ∀ interval ∈ set, start ≤ interval.1) (known : code ≤ lastCode) :
    contains (gaps start set) code = true ↔ start ≤ code ∧ set.contains code = false := by
  induction set generalizing start with
  | nil =>
    rw [gaps]
    split
    · simp [known]
    · simp
      omega
  | cons interval rest ih =>
    obtain ⟨first, apart, later⟩ := isNormal_cons.mp normal
    have below : start ≤ interval.1 := least interval List.mem_cons_self
    have front : contains (if start < interval.1 then [(start, interval.1 - 1)] else []) code =
        true ↔ start ≤ code ∧ code < interval.1 := by
      split
      · simp
        omega
      · simp
        omega
    have outside : code < interval.1 → contains rest code = false := fun lower =>
      contains_eq_false_of_lt fun other member => by
        have beyond := apart other member
        omega
    have back := ih later fun other member => Nat.le_of_lt (apart other member)
    rw [gaps, contains_append, Bool.or_eq_true, front, back, contains_cons, Bool.or_eq_false_iff,
      Bool.and_eq_false_iff, decide_eq_false_iff_not, decide_eq_false_iff_not]
    constructor
    · rintro (⟨low, lower⟩ | ⟨high, none⟩)
      · exact ⟨low, .inl (by omega), outside lower⟩
      · exact ⟨by omega, .inr (by omega), none⟩
    · rintro ⟨low, lower | higher, none⟩
      · exact .inl ⟨low, by omega⟩
      · exact .inr ⟨by omega, none⟩

theorem valid_append {a b : Intervals} (first : Valid a) (second : Valid b) : Valid (a ++ b) :=
  fun _ member => (List.mem_append.mp member).elim (first _) (second _)

theorem valid_gaps (start : Nat) (set : Intervals) : Valid (gaps start set) := by
  induction set generalizing start with
  | nil =>
    rw [gaps]
    split
    · next inside => exact fun _ member => (List.mem_singleton.mp member) ▸ inside
    · exact nofun
  | cons interval rest ih =>
    rw [gaps]
    refine valid_append ?_ (ih _)
    split
    · intro _ member
      obtain rfl := List.mem_singleton.mp member
      dsimp only
      omega
    · exact nofun

theorem valid_complement (set : Intervals) : Valid (complement set) := valid_gaps 0 _

section Operations

variable {a b : Intervals} (first : Valid a) (second : Valid b) (c : Char)

include first

theorem holds_complement : holds (complement a) c = !holds a c := by
  have top : c.toNat ≤ lastCode ∧ ¬ (surrogates.1 ≤ c.toNat ∧ c.toNat ≤ surrogates.2) := by
    have same : c.val.toNat = c.toNat := rfl
    rcases c.valid with low | ⟨high, top⟩ <;> simp only [lastCode, surrogates] <;> omega
  have valid : Valid (surrogates :: a) := List.forall_mem_cons.mpr ⟨by decide, first⟩
  have outside := contains_gaps (isNormal_normal valid) (fun _ _ => Nat.zero_le _) top.1
  rw [contains_normal, contains_cons, Bool.or_eq_false_iff] at outside
  rw [holds, complement, Bool.eq_iff_iff, outside, Bool.not_eq_true', holds]
  simpa using fun _ low high => top.2 ⟨low, high⟩

include second

theorem holds_meet : holds (meet a b) c = (holds a c && holds b c) := by
  have valid := valid_append (valid_complement a) (valid_complement b)
  rw [meet, holds_complement valid, holds, contains_append, ← holds, ← holds,
    holds_complement first, holds_complement second]
  simp

theorem holds_minus : holds (minus a b) c = (holds a c && !holds b c) := by
  rw [minus, holds_meet first (valid_complement b), holds_complement second]

theorem holds_apart : holds (apart a b) c = (holds a c != holds b c) := by
  rw [apart, holds, contains_append, ← holds, ← holds, holds_minus first second,
    holds_minus second first]
  cases holds a c <;> cases holds b c <;> rfl

end Operations

/-! ### Case classes -/

/-- The second character stands for the case class of the first. -/
def Folds (code image : Nat) : Prop := code = image ∨ (code, image) ∈ foldPairs

theorem contains_points (pairs : List (Nat × Nat)) (wanted : Nat × Nat → Bool)
    (point : Nat × Nat → Nat) (code : Nat) :
    contains (pairs.filterMap fun pair =>
        if wanted pair then some (point pair, point pair) else none) code = true ↔
      ∃ pair ∈ pairs, wanted pair = true ∧ point pair = code := by
  simp only [contains, List.any_eq_true, List.mem_filterMap, Option.ite_none_right_eq_some,
    Option.some.injEq, Bool.and_eq_true, decide_eq_true_eq]
  constructor
  · rintro ⟨_, ⟨pair, member, found, rfl⟩, low, high⟩
    exact ⟨pair, member, found, Nat.le_antisymm low high⟩
  · rintro ⟨pair, member, found, rfl⟩
    exact ⟨_, ⟨pair, member, found, rfl⟩, Nat.le_refl _, Nat.le_refl _⟩

theorem contains_foldCase (set : Intervals) (code : Nat) :
    (foldCase set).contains code = true ↔
      ∃ image, Folds code image ∧ ∃ other, Folds other image ∧ set.contains other = true := by
  have images (image : Nat) : contains (set ++ foldPairs.filterMap fun pair =>
        if set.contains pair.1 then some (pair.2, pair.2) else none) image = true ↔
      ∃ other, Folds other image ∧ set.contains other = true := by
    rw [contains_append, Bool.or_eq_true, contains_points]
    constructor
    · rintro (same | ⟨pair, member, inside, rfl⟩)
      · exact ⟨image, .inl rfl, same⟩
      · exact ⟨pair.1, .inr member, inside⟩
    · rintro ⟨other, rfl | member, inside⟩
      · exact .inl inside
      · exact .inr ⟨_, member, inside, rfl⟩
  rw [foldCase, contains_normal, contains_append, Bool.or_eq_true, contains_points]
  simp only [contains_normal, images]
  constructor
  · rintro (same | ⟨pair, member, inside, rfl⟩)
    · exact ⟨code, .inl rfl, same⟩
    · exact ⟨pair.2, .inr member, inside⟩
  · rintro ⟨image, rfl | member, inside⟩
    · exact .inl inside
    · exact .inr ⟨_, member, inside, rfl⟩

theorem valid_points (pairs : List (Nat × Nat)) (wanted : Nat × Nat → Bool)
    (point : Nat × Nat → Nat) :
    Valid (pairs.filterMap fun pair =>
      if wanted pair then some (point pair, point pair) else none) := by
  intro interval member
  simp only [List.mem_filterMap, Option.ite_none_right_eq_some, Option.some.injEq] at member
  obtain ⟨pair, -, -, rfl⟩ := member
  exact Nat.le_refl _

theorem valid_normal {set : Intervals} (valid : Valid set) : Valid (normal set) :=
  (isNormal_normal valid).valid

theorem valid_foldCase {set : Intervals} (valid : Valid set) : Valid (foldCase set) :=
  valid_normal (valid_append (valid_normal (valid_append valid (valid_points _ _ _)))
    (valid_points _ _ _))

end Text.Intervals

namespace Pattern

open Text

theorem Flags.valid_fold (flags : Flags) {set : Intervals} (valid : set.Valid) :
    (flags.fold set).Valid := by
  rw [fold]
  split
  · exact Intervals.valid_normal valid
  · split
    · exact Intervals.valid_foldCase valid
    · exact Intervals.valid_complement _

/-- A negated set finds just the characters that the set itself does not find, also where letter
case is ignored. -/
theorem Flags.holds_set (flags : Flags) {negated : Bool} {set found : Intervals}
    (valid : set.Valid) (read : flags.set negated set = .ok found) (c : Char) :
    found.holds c = ((flags.fold set).holds c != negated) := by
  rw [Flags.set] at read
  split at read
  · obtain rfl := Except.ok.inj read
    cases negated
    · simp
    · simp [Intervals.holds_complement (flags.valid_fold valid)]
  · split at read
    · next plain =>
      obtain rfl := Except.ok.inj read
      simp_all
    · cases read

end Pattern

end LogSieve
