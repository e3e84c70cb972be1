import LogSieve.Proofs.CharacterSets

/-! What the search for a pattern finds. A pattern relates two places of a text if it describes what
stands between them; repetitions are walks of any number of steps. The search moves marks instead,
all at once, and cuts walks short: it ends a repetition as soon as no new place is marked, and never
goes on for more steps than there are places. Both come to the same. -/

namespace LogSieve

theorem length_placesAfter (before : Option Char) (text : List Char) :
    (placesAfter before text).length = text.length + 1 := by
  induction text generalizing before with
  | nil => rfl
  | cons c rest ih => rw [placesAfter, List.length_cons, ih, List.length_cons]

theorem after_of_placesAfter {before : Option Char} {text : List Char} {i : Nat} {place : Place}
    (here : (placesAfter before text)[i]? = some place) : place.after = text[i]? := by
  induction text generalizing before i with
  | nil =>
    cases i with
    | zero => exact Option.some.inj here ▸ rfl
    | succ i => cases here
  | cons c rest ih =>
    cases i with
    | zero => exact Option.some.inj here ▸ rfl
    | succ i => exact ih here

namespace Pattern

/-- So many steps lead from one place to another. -/
def Walks (step : Nat → Nat → Prop) : Nat → Nat → Nat → Prop
  | 0, i, j => i = j
  | count + 1, i, j => ∃ k, step i k ∧ Walks step count k j

mutual

/-- The pattern describes what stands between two places of the text. -/
def Spans (text : List Char) : Pattern → Nat → Nat → Prop
  | blank, i, j => i = j
  | chars set, i, j => j = i + 1 ∧ ∃ c, text[i]? = some c ∧ set.holds c = true
  | look condition, i, j => i = j ∧ ∃ place, (places text)[i]? = some place ∧ condition.holds place
  | group _ inner, i, j => Spans text inner i j
  | again inner least most, i, j =>
    ∃ more, (∀ bound ∈ most, more ≤ bound - least) ∧ Walks (Spans text inner) (least + more) i j
  | sequence parts, i, j => SpansAll text parts i j
  | choice parts, i, j => SpansAny text parts i j

def SpansAll (text : List Char) : List Pattern → Nat → Nat → Prop
  | [], i, j => i = j
  | part :: parts, i, j => ∃ k, Spans text part i k ∧ SpansAll text parts k j

def SpansAny (text : List Char) : List Pattern → Nat → Nat → Prop
  | [], _, _ => False
  | part :: parts, i, j => Spans text part i j ∨ SpansAny text parts i j

end

theorem walks_add {step : Nat → Nat → Prop} {first second i j : Nat} :
    Walks step (first + second) i j ↔ ∃ k, Walks step first i k ∧ Walks step second k j := by
  induction first generalizing i with
  | zero => simp [Walks]
  | succ first ih =>
    rw [Nat.succ_add]
    simp only [Walks, ih]
    constructor
    · rintro ⟨k, near, l, far, last⟩
      exact ⟨l, ⟨k, near, far⟩, last⟩
    · rintro ⟨l, ⟨k, near, far⟩, last⟩
      exact ⟨k, near, l, far, last⟩

/-! ### Marks -/

namespace Marks

def At (marks : Marks) (place : Nat) : Prop := marks[place]? = some true

theorem At.lt {marks : Marks} {i : Nat} (here : marks.At i) : i < marks.length :=
  (List.getElem?_eq_some_iff.mp here).1

theorem isEmpty_iff {marks : Marks} : marks.isEmpty = true ↔ ∀ i, ¬ marks.At i := by
  rw [isEmpty, List.all_eq_true]
  constructor
  · intro none i here
    cases none true (List.mem_of_getElem? here)
  · intro none mark member
    obtain ⟨i, here⟩ := List.mem_iff_getElem?.mp member
    cases mark with
    | false => rfl
    | true => exact absurd here (none i)

theorem at_map {α : Type} {f : α → Bool} {items : List α} {i : Nat} :
    At (items.map f) i ↔ ∃ item, items[i]? = some item ∧ f item = true := by
  rw [At, List.getElem?_map, Option.map_eq_some_iff]

theorem at_zipWith {α : Type} {f : α → Bool → Bool} {items : List α} {marks : Marks} {i : Nat} :
    At (List.zipWith f items marks) i ↔
      ∃ item mark, items[i]? = some item ∧ marks[i]? = some mark ∧ f item mark = true := by
  rw [At, List.getElem?_zipWith]
  cases items[i]? <;> cases marks[i]? <;> simp

theorem at_join {a b : Marks} (same : a.length = b.length) {i : Nat} :
    (join a b).At i ↔ a.At i ∨ b.At i := by
  rw [join, at_zipWith, At, At]
  by_cases inside : i < a.length
  · rw [List.getElem?_eq_getElem inside, List.getElem?_eq_getElem (same ▸ inside)]
    simp
  · rw [List.getElem?_eq_none (by omega), List.getElem?_eq_none (by omega)]
    simp

theorem join_cons (mark other : Bool) (a b : Marks) :
    join (mark :: a) (other :: b) = (mark || other) :: join a b := rfl

theorem count_join_le (a b : Marks) : (join a b).count false ≤ a.count false := by
  induction a generalizing b with
  | nil => exact Nat.le_refl _
  | cons mark a ih =>
    cases b with
    | nil => exact Nat.zero_le _
    | cons other b =>
      have rest := ih b
      rw [join_cons]
      cases mark <;> cases other <;> simp <;> omega

/-- A mark on a new place leaves fewer places without one. -/
theorem count_join_lt {a b : Marks} {i : Nat} (inside : i < a.length) (new : b.At i)
    (old : ¬ a.At i) : (join a b).count false < a.count false := by
  induction a generalizing b i with
  | nil => cases inside
  | cons mark a ih =>
    cases b with
    | nil => cases new
    | cons other b =>
      rw [join_cons]
      cases i with
      | zero =>
        obtain rfl : other = true := Option.some.inj new
        obtain rfl : mark = false := Bool.eq_false_iff.mpr fun set => old (congrArg some set)
        have rest := count_join_le a b
        simp
        omega
      | succ i =>
        have rest := @ih b i (Nat.lt_of_succ_lt_succ inside) new old
        cases mark <;> cases other <;> simp <;> omega

end Marks

/-! ### Moving marks -/

/-- Marks for so many places are moved as the relation says. -/
def Moves (size : Nat) (move : Marks → Marks) (step : Nat → Nat → Prop) : Prop :=
  ∀ marks : Marks, marks.length = size →
    (move marks).length = size ∧ ∀ j, (move marks).At j ↔ ∃ i, marks.At i ∧ step i j

namespace Moves

variable {size : Nat} {move : Marks → Marks} {step : Nat → Nat → Prop}
  (moves : Moves size move step)

include moves

theorem steps (count : Nat) : Moves size (steps move count) (Walks step count) := by
  intro marks whole
  induction count generalizing marks with
  | zero => simp [Pattern.steps, Walks, whole]
  | succ count ih =>
    obtain ⟨kept, moved⟩ := moves marks whole
    have far (j : Nat) : (∃ i, marks.At i ∧ Walks step (count + 1) i j) ↔
        ∃ i, (move marks).At i ∧ Walks step count i j := by
      simp only [Walks, moved]
      constructor
      · rintro ⟨i, here, k, near, walk⟩
        exact ⟨k, ⟨i, here, near⟩, walk⟩
      · rintro ⟨k, ⟨i, here, near⟩, walk⟩
        exact ⟨i, here, k, near, walk⟩
    rw [Pattern.steps]
    simp only [far]
    split
    · next still =>
      -- Nothing has moved, so nothing will.
      have same : move marks = marks := by simpa using still
      have rest : Pattern.steps move count marks = marks := by
        cases count <;> simp [Pattern.steps, same]
      rw [same]
      simpa only [rest] using ih marks whole
    · exact ih _ kept

end Moves

/-! ### Repetitions -/

/-- The places that one more step marks for the first time. -/
def unseen (move : Marks → Marks) (seen fresh : Marks) : Marks :=
  List.zipWith (fun mark old => mark && !old) (move fresh) seen

theorem reach_succ (move : Marks → Marks) (count : Nat) (seen fresh : Marks) :
    reach move (count + 1) seen fresh =
      if (unseen move seen fresh).isEmpty then seen
      else reach move count (seen.join (unseen move seen fresh)) (unseen move seen fresh) := rfl

/-- Among the places that have been seen, only from the fresh ones a step can lead to a place that
has not. -/
structure Searched (size : Nat) (step : Nat → Nat → Prop) (seen fresh : Marks) : Prop where
  whole : seen.length = size
  whole_fresh : fresh.length = size
  part : ∀ i, fresh.At i → seen.At i
  tried : ∀ i j, seen.At i → ¬ fresh.At i → step i j → seen.At j

namespace Searched

variable {size : Nat} {move : Marks → Marks} {step : Nat → Nat → Prop} {seen fresh : Marks}
  {count : Nat}

theorem start {marks : Marks} (whole : marks.length = size) : Searched size step marks marks :=
  ⟨whole, whole, fun _ here => here, fun _ _ here other => absurd here other⟩

section

variable (moves : Moves size move step) (searched : Searched size step seen fresh)

include moves searched

theorem length_unseen : (unseen move seen fresh).length = size := by
  rw [unseen, List.length_zipWith, (moves fresh searched.whole_fresh).1, searched.whole,
    Nat.min_self]

theorem at_unseen {j : Nat} :
    (unseen move seen fresh).At j ↔ (∃ i, fresh.At i ∧ step i j) ∧ ¬ seen.At j := by
  obtain ⟨kept, moved⟩ := moves fresh searched.whole_fresh
  rw [← moved, unseen, Marks.at_zipWith, Marks.At, Marks.At]
  by_cases inside : j < size
  · rw [List.getElem?_eq_getElem (kept.symm ▸ inside),
      List.getElem?_eq_getElem (searched.whole.symm ▸ inside)]
    simp
  · rw [List.getElem?_eq_none (by omega)]
    simp

theorem at_join {j : Nat} : (seen.join (unseen move seen fresh)).At j ↔
    seen.At j ∨ (unseen move seen fresh).At j :=
  Marks.at_join (searched.whole.trans (searched.length_unseen moves).symm)

theorem at_join_unseen {j : Nat} : (seen.join (unseen move seen fresh)).At j ↔
    seen.At j ∨ ∃ i, seen.At i ∧ step i j := by
  rw [searched.at_join moves, searched.at_unseen moves]
  constructor
  · rintro (old | ⟨⟨i, here, near⟩, -⟩)
    · exact .inl old
    · exact .inr ⟨i, searched.part i here, near⟩
  · rintro (old | ⟨i, here, near⟩)
    · exact .inl old
    · by_cases old : seen.At j
      · exact .inl old
      · by_cases new : fresh.At i
        · exact .inr ⟨⟨i, new, near⟩, old⟩
        · exact absurd (searched.tried i j here new near) old

theorem next :
    Searched size step (seen.join (unseen move seen fresh)) (unseen move seen fresh) where
  whole := by
    rw [Marks.join, List.length_zipWith, searched.whole, searched.length_unseen moves, Nat.min_self]
  whole_fresh := searched.length_unseen moves
  part _ new := (searched.at_join moves).mpr (.inr new)
  tried i _ here old near := by
    have earlier := ((searched.at_join moves).mp here).resolve_right old
    exact (searched.at_join_unseen moves).mpr (.inr ⟨i, earlier, near⟩)

/-- Where no place is marked for the first time, all steps stay among the places seen. -/
theorem closed (none : (unseen move seen fresh).isEmpty = true) {i j : Nat} (here : seen.At i)
    (near : step i j) : seen.At j := by
  have joined := (searched.at_join_unseen moves).mpr (.inr ⟨i, here, near⟩)
  exact ((searched.at_join moves).mp joined).resolve_right (Marks.isEmpty_iff.mp none j)

end

theorem walks_stay (closed : ∀ i j, seen.At i → step i j → seen.At j) {i j : Nat}
    (here : seen.At i) (walk : Walks step count i j) : seen.At j := by
  induction count generalizing i with
  | zero => exact walk ▸ here
  | succ count ih =>
    obtain ⟨k, near, walk⟩ := walk
    exact ih (closed i k here near) walk

variable (moves : Moves size move step)

include moves

theorem reach_spec (searched : Searched size step seen fresh) :
    (reach move count seen fresh).length = size ∧ ∀ j, (reach move count seen fresh).At j ↔
      ∃ more ≤ count, ∃ i, seen.At i ∧ Walks step more i j := by
  induction count generalizing seen fresh with
  | zero => simp [reach, Walks, searched.whole]
  | succ count ih =>
    rw [reach_succ]
    split
    · next none =>
      refine ⟨searched.whole, fun j => ⟨fun here => ⟨0, Nat.zero_le _, j, here, rfl⟩, ?_⟩⟩
      rintro ⟨more, -, i, here, walk⟩
      exact walks_stay (fun _ _ => searched.closed moves none) here walk
    · obtain ⟨whole, each⟩ := ih (searched.next moves)
      refine ⟨whole, fun j => ?_⟩
      rw [each]
      constructor
      · rintro ⟨more, few, i, here, walk⟩
        rcases (searched.at_join_unseen moves).mp here with here | ⟨k, here, near⟩
        · exact ⟨more, Nat.le_succ_of_le few, i, here, walk⟩
        · exact ⟨more + 1, Nat.succ_le_succ few, k, here, i, near, walk⟩
      · rintro ⟨more, few, i, here, walk⟩
        cases more with
        | zero => exact ⟨0, Nat.zero_le _, i, (searched.at_join_unseen moves).mpr (.inl here), walk⟩
        | succ more =>
          obtain ⟨k, near, walk⟩ := walk
          exact ⟨more, Nat.le_of_succ_le_succ few, k,
            (searched.at_join_unseen moves).mpr (.inr ⟨i, here, near⟩), walk⟩

/-- Every round but the last marks a place, so there are no more rounds than places without one. -/
theorem reach_closed (searched : Searched size step seen fresh)
    (enough : seen.count false ≤ count) {i j : Nat} (here : (reach move count seen fresh).At i)
    (near : step i j) : (reach move count seen fresh).At j := by
  induction count generalizing seen fresh with
  | zero =>
    obtain ⟨kept, moved⟩ := moves seen searched.whole
    have inside : j < seen.length := by
      rw [searched.whole, ← kept]
      exact ((moved j).mpr ⟨i, here, near⟩).lt
    have full : false ∉ seen := List.count_eq_zero.mp (Nat.le_zero.mp enough)
    rw [reach, Marks.At, List.getElem?_eq_getElem inside]
    exact congrArg some (Bool.not_eq_false _ ▸ fun blank => full (blank ▸ List.getElem_mem inside))
  | succ count ih =>
    rw [reach_succ] at here ⊢
    split at here
    · next none =>
      rw [if_pos none]
      exact searched.closed moves none here near
    · next some =>
      rw [if_neg some]
      refine ih (searched.next moves) ?_ here
      rw [Marks.isEmpty_iff] at some
      obtain ⟨k, new⟩ := Classical.not_forall_not.mp some
      have old := ((searched.at_unseen moves).mp new).2
      have inside : k < seen.length := by
        rw [searched.whole, ← searched.length_unseen moves]
        exact new.lt
      have fewer := Marks.count_join_lt inside new old
      omega

end Searched

namespace Moves

variable {size : Nat} {move : Marks → Marks} {step : Nat → Nat → Prop}
  (moves : Moves size move step)

include moves

/-- As many rounds as there are places stand for any number of steps. -/
theorem at_reach_size {marks : Marks} (whole : marks.length = size) {j : Nat} :
    (Pattern.reach move size marks marks).At j ↔
      ∃ more i, marks.At i ∧ Walks step more i j := by
  have searched : Searched size step marks marks := Searched.start whole
  have few (k : Nat) : (Pattern.reach move size marks marks).At k ↔
      ∃ more ≤ size, ∃ i, marks.At i ∧ Walks step more i k := (searched.reach_spec moves).2 k
  constructor
  · intro here
    obtain ⟨more, -, walk⟩ := (few j).mp here
    exact ⟨more, walk⟩
  · rintro ⟨more, i, here, walk⟩
    have marked := (few i).mpr ⟨0, Nat.zero_le _, i, here, rfl⟩
    have enough : marks.count false ≤ size := whole ▸ List.count_le_length
    exact Searched.walks_stay (fun _ _ => searched.reach_closed moves enough) marked walk

theorem reach (least : Nat) (most : Option Nat) :
    Moves size
      (fun marks =>
        let more := match most with
          | some most => min (most - least) size
          | none => size
        Pattern.reach move more marks marks)
      fun i j => ∃ more, (∀ bound ∈ most, more ≤ bound - least) ∧ Walks step more i j := by
  intro marks whole
  have searched : Searched size step marks marks := Searched.start whole
  refine ⟨(searched.reach_spec moves).1, fun j => ?_⟩
  cases most with
  | none =>
    refine (moves.at_reach_size whole).trans ⟨?_, ?_⟩
    · rintro ⟨more, i, here, walk⟩
      exact ⟨i, here, more, nofun, walk⟩
    · rintro ⟨i, here, more, -, walk⟩
      exact ⟨more, i, here, walk⟩
  | some most =>
    simp only [Option.mem_def, Option.some.injEq, forall_eq']
    by_cases few : most - least ≤ size
    · rw [Nat.min_eq_left few, (searched.reach_spec moves).2]
      constructor
      · rintro ⟨more, bound, i, here, walk⟩
        exact ⟨i, here, more, bound, walk⟩
      · rintro ⟨i, here, more, bound, walk⟩
        exact ⟨more, bound, i, here, walk⟩
    · rw [Nat.min_eq_right (Nat.le_of_not_le few)]
      constructor
      · intro here
        obtain ⟨more, bound, i, here, walk⟩ := ((searched.reach_spec moves).2 j).mp here
        exact ⟨i, here, more, by omega, walk⟩
      · rintro ⟨i, here, more, -, walk⟩
        exact (moves.at_reach_size whole).mpr ⟨more, i, here, walk⟩

end Moves

/-! ### Patterns -/

theorem Moves.comp {size : Nat} {first second : Marks → Marks} {near far : Nat → Nat → Prop}
    (moves : Moves size first near) (moves' : Moves size second far) :
    Moves size (fun marks => second (first marks)) fun i j => ∃ k, near i k ∧ far k j := by
  intro marks whole
  obtain ⟨kept, moved⟩ := moves marks whole
  obtain ⟨kept', moved'⟩ := moves' (first marks) kept
  refine ⟨kept', fun j => ?_⟩
  simp only [moved', moved]
  constructor
  · rintro ⟨k, ⟨i, here, low⟩, high⟩
    exact ⟨i, here, k, low, high⟩
  · rintro ⟨i, here, k, low, high⟩
    exact ⟨k, ⟨i, here, low⟩, high⟩

theorem length_places (text : List Char) : (places text).length = text.length + 1 :=
  length_placesAfter none text

theorem moves_advance (text : List Char) (set : Text.Intervals) :
    Moves (text.length + 1) (advance set (places text)) (Spans text (chars set)) := by
  intro marks whole
  have size := length_places text
  refine ⟨by simp [advance, whole, size], fun j => ?_⟩
  simp only [advance, Spans]
  cases j with
  | zero => simp [Marks.At]
  | succ k =>
    rw [Marks.At, List.getElem?_cons_succ, List.getElem?_dropLast, List.length_zipWith, size, whole,
      Nat.min_self, Nat.add_sub_cancel]
    constructor
    · intro here
      split at here
      · obtain ⟨place, mark, there, marked, both⟩ := Marks.at_zipWith.mp here
        obtain ⟨rfl, found⟩ := Bool.and_eq_true_iff.mp both
        rw [after_of_placesAfter there, Option.any_eq_true] at found
        obtain ⟨c, next, member⟩ := found
        exact ⟨k, marked, rfl, c, next, member⟩
      · cases here
    · rintro ⟨i, marked, same, c, next, member⟩
      obtain rfl : k = i := Nat.succ.inj same
      have inside : k < text.length := (List.getElem?_eq_some_iff.mp next).1
      have there : (places text)[k]? = some (places text)[k] :=
        List.getElem?_eq_getElem (by omega)
      rw [if_pos inside]
      refine Marks.at_zipWith.mpr ⟨_, true, there, marked, ?_⟩
      rw [after_of_placesAfter there, next, Bool.true_and]
      exact member

theorem moves_stay (text : List Char) (condition : Look) :
    Moves (text.length + 1) (stay condition (places text)) (Spans text (look condition)) := by
  intro marks whole
  refine ⟨by simp [stay, whole, length_places], fun j => ?_⟩
  simp only [stay, Spans, Marks.at_zipWith]
  constructor
  · rintro ⟨place, mark, here, marked, both⟩
    obtain ⟨rfl, holds⟩ := Bool.and_eq_true_iff.mp both
    exact ⟨j, marked, rfl, place, here, holds⟩
  · rintro ⟨i, marked, rfl, place, here, holds⟩
    exact ⟨place, true, here, marked, holds⟩

mutual

theorem moves_ends (text : List Char) (pattern : Pattern) :
    Moves (text.length + 1) (ends (places text) pattern) (Spans text pattern) := by
  cases pattern with
  | blank => exact fun marks whole => by simp [ends, Spans, whole]
  | chars set =>
    intro marks whole
    rw [ends]
    exact moves_advance text set marks whole
  | look condition =>
    intro marks whole
    rw [ends]
    exact moves_stay text condition marks whole
  | group captures inner =>
    intro marks whole
    rw [ends]
    simp only [Spans]
    exact moves_ends text inner marks whole
  | again inner least most =>
    have inner := moves_ends text inner
    intro marks whole
    rw [ends.eq_def]
    simp only [length_places]
    obtain ⟨kept, moved⟩ := (inner.steps least).comp (inner.reach least most) marks whole
    refine ⟨kept, fun j => (moved j).trans ?_⟩
    simp only [Spans, walks_add]
    constructor
    · rintro ⟨i, here, k, low, more, bound, high⟩
      exact ⟨i, here, more, bound, k, low, high⟩
    · rintro ⟨i, here, more, bound, k, low, high⟩
      exact ⟨i, here, k, low, more, bound, high⟩
  | sequence parts =>
    intro marks whole
    rw [ends]
    simp only [Spans]
    exact moves_endsOfAll text parts marks whole
  | choice parts =>
    intro marks whole
    rw [ends]
    simp only [Spans]
    exact moves_endsOfAny text parts marks whole

theorem moves_endsOfAll (text : List Char) (parts : List Pattern) :
    Moves (text.length + 1) (endsOfAll (places text) parts) (SpansAll text parts) := by
  cases parts with
  | nil => exact fun marks whole => by simp [endsOfAll, SpansAll, whole]
  | cons part parts =>
    intro marks whole
    rw [endsOfAll]
    simp only [SpansAll]
    exact (moves_ends text part).comp (moves_endsOfAll text parts) marks whole

theorem moves_endsOfAny (text : List Char) (parts : List Pattern) :
    Moves (text.length + 1) (endsOfAny (places text) parts) (SpansAny text parts) := by
  cases parts with
  | nil =>
    intro marks whole
    refine ⟨by rw [endsOfAny, List.length_map, whole], fun j => ?_⟩
    rw [endsOfAny, Marks.at_map]
    simp only [SpansAny, Bool.false_eq_true, and_false, exists_false]
  | cons part parts =>
    intro marks whole
    obtain ⟨kept, moved⟩ := moves_ends text part marks whole
    obtain ⟨kept', moved'⟩ := moves_endsOfAny text parts marks whole
    rw [endsOfAny]
    refine ⟨by simp [Marks.join, kept, kept'], fun j => ?_⟩
    rw [Marks.at_join (kept.trans kept'.symm), moved, moved']
    simp only [SpansAny, and_or_left, exists_or]

end

/-- A pattern is found just where it describes what stands between some two places. -/
theorem finds_iff (pattern : Pattern) (text : String) :
    pattern.finds text = true ↔
      ∃ i ≤ text.toList.length, ∃ j, Spans text.toList pattern i j := by
  have size := length_places text.toList
  obtain ⟨-, moved⟩ := moves_ends text.toList pattern ((places text.toList).map fun _ => true)
    (by simp [size])
  have all (i : Nat) : Marks.At ((places text.toList).map fun _ => true) i ↔
      i ≤ text.toList.length := by
    rw [Marks.at_map, ← Nat.lt_add_one_iff, ← size]
    simp only [and_true, ← Option.isSome_iff_exists, isSome_getElem?]
  rw [finds, Bool.not_eq_true', ← Bool.not_eq_true, Marks.isEmpty_iff, Classical.not_forall_not]
  simp only [moved, all]
  constructor
  · rintro ⟨j, i, inside, found⟩
    exact ⟨i, inside, j, found⟩
  · rintro ⟨i, inside, j, found⟩
    exact ⟨j, i, inside, found⟩

theorem finds_chars (set : Text.Intervals) (text : String) :
    (chars set).finds text = true ↔ ∃ c ∈ text.toList, set.holds c = true := by
  rw [finds_iff]
  simp only [Spans]
  constructor
  · rintro ⟨i, -, j, -, c, here, held⟩
    exact ⟨c, List.mem_of_getElem? here, held⟩
  · rintro ⟨c, member, held⟩
    obtain ⟨i, here⟩ := List.mem_iff_getElem?.mp member
    have inside : i < text.toList.length := (List.getElem?_eq_some_iff.mp here).1
    exact ⟨i, Nat.le_of_lt inside, i + 1, rfl, c, here, held⟩

/-- A bracket looks for a character of its set, a negated one for any other. -/
theorem Flags.finds_set (flags : Flags) {negated : Bool} {set found : Text.Intervals}
    (valid : set.Valid) (read : flags.set negated set = .ok found) (text : String) :
    (chars found).finds text = true ↔
      ∃ c ∈ text.toList, (flags.fold set).holds c ≠ negated := by
  simp only [finds_chars, flags.holds_set valid read, bne_iff_ne]

end Pattern

end LogSieve
