import LogSieve.Proofs.Refinement
import Mathlib.Data.List.ReduceOption

/-! How often the error of a cancellation comes when nobody stops at the first error. Every part of
an expression stands behind a guard of its own. A guard that meets the error of the guard inside
it, in the pull during which the signal is given, passes that error on and gives its own one at the
next pull: the error comes at most twice, and nothing but the error comes after it. It comes once
where the signal is given between two pulls, and where a stage that takes its whole source first
stands in front. -/

namespace LogSieve

open LogSieve.Flow

namespace Item

theorem record_ne_error (record : Record) (error : FilterError) :
    Item.record record ≠ .error error := nofun

/-- The error of a cancellation comes last and so many times at the most. -/
def CancelledAtMost (most : Nat) (items : List Item) : Prop :=
  ∃ kept count, items = kept ++ List.replicate count (.error .cancelled) ∧
    .error .cancelled ∉ kept ∧ count ≤ most

variable {most more : Nat} {items : List Item}

theorem CancelledAtMost.mono (cancelled : CancelledAtMost most items) (le : most ≤ more) :
    CancelledAtMost more items := by
  obtain ⟨kept, count, split, others, bound⟩ := cancelled
  exact ⟨kept, count, split, others, Nat.le_trans bound le⟩

theorem CancelledAtMost.count_le (cancelled : CancelledAtMost most items) :
    items.count (.error .cancelled) ≤ most := by
  obtain ⟨kept, count, rfl, others, bound⟩ := cancelled
  rw [List.count_append, List.count_eq_zero_of_not_mem others, List.count_replicate_self]
  omega

theorem cancelledAtMost_nil (most : Nat) : CancelledAtMost most [] :=
  ⟨[], 0, rfl, List.not_mem_nil, Nat.zero_le most⟩

theorem cancelledAtMost_one : CancelledAtMost 1 [.error .cancelled] :=
  ⟨[], 1, rfl, List.not_mem_nil, Nat.le_refl _⟩

theorem CancelledAtMost.cons (cancelled : CancelledAtMost most items) {found : Item}
    (other : found ≠ .error .cancelled) : CancelledAtMost most (found :: items) := by
  obtain ⟨kept, count, rfl, others, bound⟩ := cancelled
  exact ⟨found :: kept, count, rfl, List.not_mem_cons_of_ne_of_not_mem other.symm others, bound⟩

theorem cancelledAtMost_error (error : FilterError) : CancelledAtMost 1 [.error error] := by
  by_cases same : error = .cancelled
  · exact same ▸ cancelledAtMost_one
  · exact (cancelledAtMost_nil 1).cons fun equal => same (Item.error.inj equal)

theorem cancelledAtMost_two (found : Item) : CancelledAtMost 2 [found, .error .cancelled] := by
  by_cases other : found = .error .cancelled
  · exact ⟨[], 2, by rw [other]; rfl, List.not_mem_nil, Nat.le_refl _⟩
  · exact (cancelledAtMost_one.mono (Nat.le_succ 1)).cons other

theorem CancelledAtMost.filter (cancelled : CancelledAtMost most items) {keep : Item → Bool}
    (kept : keep (.error .cancelled) = true) : CancelledAtMost most (items.filter keep) := by
  obtain ⟨before, count, rfl, others, bound⟩ := cancelled
  refine ⟨before.filter keep, count, ?_, fun member => others (List.mem_of_mem_filter member),
    bound⟩
  rw [List.filter_append, List.filter_replicate_of_pos kept]

theorem CancelledAtMost.front (cancelled : CancelledAtMost most items) {start : List Item}
    (starts : start <+: items) : CancelledAtMost most start := by
  obtain ⟨kept, count, rfl, others, bound⟩ := cancelled
  rw [List.prefix_iff_eq_take, List.take_append, List.take_replicate] at starts
  exact ⟨_, _, starts, fun member => others (List.mem_of_mem_take member),
    Nat.le_trans (Nat.min_le_right _ _) bound⟩

end Item

namespace Flow

def late : Flow → List Item
  | ended => []
  | pause rest => late rest
  | idle woken => late woken
  | item found rest => found :: late rest
  | mark _ rest => late rest
  | check given _ => late given

/-- Until the signal is given, no pull meets the error of a cancellation. The first predicate says
what pulls meet after a signal that comes between two pulls, the second one what they meet from the
pull on during which the signal comes. -/
def Heeds (between amid : List Item → Prop) : Flow → Prop
  | ended => True
  | pause rest => between (late rest) ∧ Heeds between amid rest
  | idle woken => between (late woken)
  | item found rest =>
    found ≠ .error .cancelled ∧ between (late rest) ∧ Heeds between amid rest
  | mark .fire rest => amid (late rest)
  | mark _ rest => Heeds between amid rest
  | check _ notGiven => Heeds between amid notGiven

theorem Heeds.mono {between amid between' amid' : List Item → Prop} {flow : Flow}
    (heeds : Heeds between amid flow) (weakBetween : ∀ items, between items → between' items)
    (weakAmid : ∀ items, amid items → amid' items) : Heeds between' amid' flow := by
  induction flow with
  | ended => trivial
  | pause rest ih => exact ⟨weakBetween _ heeds.1, ih heeds.2⟩
  | idle woken => exact weakBetween _ heeds
  | item found rest ih => exact ⟨heeds.1, weakBetween _ heeds.2.1, ih heeds.2.2⟩
  | mark event rest ih =>
    cases event with
    | fire => exact weakAmid _ heeds
    | ask | take => exact ih heeds
  | check given notGiven _ ih => exact ih heeds

/-! Pulls -/

variable {tally : Tally} {between amid : List Item → Prop}

theorem pull_late (flow : Flow) (fired : tally.fired = true) :
    (flow.pull tally).tally.fired = true ∧
      late flow = (flow.pull tally).item.toList ++ late (flow.pull tally).rest := by
  induction flow generalizing tally with
  | ended | pause | item => exact ⟨fired, rfl⟩
  | idle woken ih =>
    rw [pull, if_pos fired]
    exact ih fired
  | mark event rest ih =>
    refine ih ?_
    cases event with
    | ask | take => exact fired
    | fire => rfl
  | check given notGiven ihGiven =>
    rw [pull, if_pos fired]
    exact ihGiven fired

theorem pull_heeds {flow : Flow} (heeds : Heeds between amid flow) (nothing : between [])
    (unfired : tally.fired = false) :
    let pulled := flow.pull tally
    (pulled.tally.fired = false ∧ pulled.item ≠ some (.error .cancelled) ∧
        between (late pulled.rest) ∧ Heeds between amid pulled.rest) ∨
      pulled.tally.fired = true ∧ amid (pulled.item.toList ++ late pulled.rest) := by
  induction flow generalizing tally with
  | ended => exact .inl ⟨unfired, (Option.some_ne_none _).symm, nothing, trivial⟩
  | pause rest => exact .inl ⟨unfired, (Option.some_ne_none _).symm, heeds⟩
  | idle woken =>
    rw [pull, if_neg (by simp [unfired])]
    exact .inl ⟨unfired, (Option.some_ne_none _).symm, heeds, heeds⟩
  | item found rest => exact .inl ⟨unfired, fun same => heeds.1 (Option.some.inj same), heeds.2⟩
  | mark event rest ih =>
    cases event with
    | ask | take => exact ih heeds unfired
    | fire =>
      obtain ⟨fired, met⟩ := pull_late rest (rfl : (tally.note .fire).fired = true)
      exact .inr ⟨fired, met ▸ heeds⟩
  | check given notGiven _ ih =>
    rw [pull, if_neg (by simp [unfired])]
    exact ih heeds unfired

theorem reduceOption_cons (answer : Option Item) (answers : List (Option Item)) :
    (answer :: answers).reduceOption = answer.toList ++ answers.reduceOption := by
  cases answer <;> rfl

theorem serve_late (flow : Flow) (requests : List Request) (fired : tally.fired = true) :
    (flow.serve tally requests).1.reduceOption <+: late flow := by
  induction requests generalizing flow tally with
  | nil => exact List.nil_prefix
  | cons request rest ih =>
    cases request with
    | fire => exact ih flow rfl
    | pull =>
      obtain ⟨still, met⟩ := pull_late flow fired
      rw [serve, reduceOption_cons, met]
      exact (List.prefix_append_right_inj _).mpr (ih _ still)

/-- The error of a cancellation comes once after a signal between two pulls, and so many times at
the most after a signal during a pull, if one is possible. -/
structure Cancels (possible : Prop) (most : Nat) (flow : Flow) : Prop where
  late : Item.CancelledAtMost 1 (late flow)
  heeds :
    Heeds (Item.CancelledAtMost 1) (fun met => possible ∧ Item.CancelledAtMost most met) flow

section Cancels

variable {possible : Prop} {most more : Nat} {flow rest given notGiven : Flow}

theorem Cancels.mono (cancels : Cancels possible most flow) (le : most ≤ more) :
    Cancels possible more flow :=
  ⟨cancels.late, cancels.heeds.mono (fun _ => id) fun _ met => ⟨met.1, met.2.mono le⟩⟩

theorem cancels_checkCancelled (cancels : Cancels possible most flow) :
    Cancels possible most (check cancelled flow) :=
  ⟨Item.cancelledAtMost_one, cancels.heeds⟩

theorem cancels_ended (possible : Prop) (most : Nat) : Cancels possible most ended :=
  ⟨Item.cancelledAtMost_nil 1, trivial⟩

theorem cancels_item (cancels : Cancels possible most rest) {found : Item}
    (other : found ≠ .error .cancelled) : Cancels possible most (item found rest) :=
  ⟨cancels.late.cons other, other, cancels.late, cancels.heeds⟩

theorem serve_cancels (cancels : Cancels possible most flow) (unfired : tally.fired = false)
    (requests : List Request) (one : 1 ≤ more) (bound : possible → most ≤ more) :
    Item.CancelledAtMost more (flow.serve tally requests).1.reduceOption := by
  induction requests generalizing flow tally with
  | nil => exact Item.cancelledAtMost_nil more
  | cons request rest ih =>
    cases request with
    | fire => exact (cancels.late.mono one).front (serve_late flow rest rfl)
    | pull =>
      rw [serve, reduceOption_cons]
      rcases pull_heeds cancels.heeds (Item.cancelledAtMost_nil 1) unfired with
        ⟨unfired, other, late, heeds⟩ | ⟨fired, canFire, met⟩
      · have later := ih ⟨late, heeds⟩ unfired
        cases answer : (flow.pull tally).item with
        | none => exact later
        | some found => exact later.cons fun same => other (answer.trans (congrArg some same))
      -- The signal has come during this pull, so the bound counts the answer to it as well.
      · exact (met.mono (bound canFire)).front
          ((List.prefix_append_right_inj _).mpr (serve_late _ rest fired))

def Calm (possible : Prop) (flow : Flow) : Prop :=
  Heeds (fun _ => True) (fun _ => possible) flow

theorem Cancels.calm (cancels : Cancels possible most flow) : Calm possible flow :=
  cancels.heeds.mono (fun _ _ => trivial) fun _ => And.left

theorem calm_ofRecords (possible : Prop) (records : List Record) :
    Calm possible (ofRecords records) := by
  induction records with
  | nil => trivial
  | cons record rest ih => exact ⟨Item.record_ne_error record _, trivial, ih⟩

theorem late_answer {events : List Event} (clean : .give (.error .cancelled) ∉ events) :
    .error .cancelled ∉ late (ofEvents.answer events) := by
  induction events with
  | nil => exact List.not_mem_nil
  | cons event rest ih =>
    have other := List.ne_of_not_mem_cons clean
    have cleanRest := List.not_mem_of_not_mem_cons clean
    cases event with
    | give found =>
      exact List.not_mem_cons_of_ne_of_not_mem (fun same => other (congrArg _ same)) (ih cleanRest)
    | fire | pause => exact ih cleanRest

theorem heeds_answer {events : List Event} (clean : .give (.error .cancelled) ∉ events) :
    Heeds (fun _ => True) (fun met => .fire ∈ events ∧ .error .cancelled ∉ met)
      (ofEvents.answer events) := by
  induction events with
  | nil => trivial
  | cons event rest ih =>
    have other := List.ne_of_not_mem_cons clean
    have cleanRest := List.not_mem_of_not_mem_cons clean
    have later := (ih cleanRest).mono (fun _ => id) fun met =>
      And.imp_left (List.mem_cons_of_mem event)
    cases event with
    | give found => exact ⟨fun same => other (congrArg _ same.symm), trivial, later⟩
    | fire => exact ⟨List.mem_cons_self, late_answer cleanRest⟩
    | pause => exact ⟨trivial, later⟩

/-! The guard -/

theorem late_lastAnswer (flow : Flow) : ∃ answer : Option Item,
    answer.toList <+: late flow ∧
      late (lastAnswer flow) = answer.toList ++ [.error .cancelled] := by
  induction flow with
  | ended | pause => exact ⟨none, List.nil_prefix, rfl⟩
  | idle woken ih => exact ih
  | item found rest => exact ⟨some found, ⟨late rest, rfl⟩, rfl⟩
  | mark event rest ih => exact ih
  | check given notGiven ihGiven => exact ihGiven

theorem late_behind (flow : Flow) : ∃ answer : Option Item,
    answer.toList <+: late flow ∧
      late (guarded.behind flow) = answer.toList ++ [.error .cancelled] := by
  induction flow with
  | ended | pause => exact ⟨none, List.nil_prefix, rfl⟩
  | idle woken => exact late_lastAnswer woken
  | item found rest => exact ⟨some found, ⟨late rest, rfl⟩, rfl⟩
  | mark event rest ih => exact ih
  | check given => exact late_lastAnswer given

theorem heeds_behind {amid : List Item → Prop}
    (heeds : Heeds (fun _ => True) amid flow)
    (bound : ∀ met, amid met → ∀ answer : Option Item, answer.toList <+: met →
      possible ∧ Item.CancelledAtMost most (answer.toList ++ [.error .cancelled])) :
    Heeds (Item.CancelledAtMost 1) (fun met => possible ∧ Item.CancelledAtMost most met)
      (guarded.behind flow) := by
  have one := Item.cancelledAtMost_one
  induction flow with
  | ended => exact ⟨one, one⟩
  | pause rest ih => exact ⟨one, ih heeds.2⟩
  | idle woken => exact ⟨one, one⟩
  | item found rest ih => exact ⟨heeds.1, one, ih heeds.2.2⟩
  | mark event rest ih =>
    cases event with
    | ask | take => exact ih heeds
    | fire =>
      obtain ⟨answer, starts, met⟩ := late_behind rest
      have cancels := bound _ heeds answer starts
      rwa [← met] at cancels
  | check given notGiven _ ih => exact ih heeds

/-- Whatever the flow behind the guard does with the signal, the guard gives one answer to the pull
during which the signal comes, and then its error. -/
theorem cancels_guarded (calm : Calm possible flow) : Cancels possible 2 (guarded flow) :=
  ⟨Item.cancelledAtMost_one, heeds_behind calm fun _ canFire answer _ => ⟨canFire, by
    cases answer with
    | none => exact Item.cancelledAtMost_one.mono (Nat.le_succ 1)
    | some found => exact Item.cancelledAtMost_two found⟩⟩

theorem cancels_guarded_ofEvents {events : List Event}
    (clean : .give (.error .cancelled) ∉ events) :
    Cancels (.fire ∈ events) 1 (guarded (ofEvents events)) := by
  refine ⟨Item.cancelledAtMost_one, heeds_behind (heeds_answer clean) ?_⟩
  rintro met ⟨canFire, free⟩ answer starts
  refine ⟨canFire, ?_⟩
  cases answer with
  | none => exact Item.cancelledAtMost_one
  | some found =>
    have member : found ∈ met := starts.subset List.mem_cons_self
    exact Item.cancelledAtMost_one.cons fun same => free (same ▸ member)

/-! The other stages -/

theorem late_sift (accepts : Record → Bool) (flow : Flow) :
    late (sift accepts flow) = (late flow).filter (Item.passes accepts) := by
  induction flow with
  | ended => rfl
  | pause rest ih => exact ih
  | idle woken ih => exact ih
  | item found rest ih =>
    cases found with
    | error error => exact congrArg (List.cons (.error error)) ih
    | record record =>
      by_cases accepted : accepts record
      · rw [sift, if_pos accepted, late, late, List.filter_cons_of_pos (by exact accepted), ih]
      · rw [sift, if_neg accepted, late, List.filter_cons_of_neg (by exact accepted), ih]
  | mark event rest ih => exact ih
  | check given notGiven ihGiven => exact ihGiven

theorem Heeds.sift {between amid : List Item → Prop} (heeds : Heeds between amid flow)
    (accepts : Record → Bool)
    (betweenFilter : ∀ met, between met → between (met.filter (Item.passes accepts)))
    (amidFilter : ∀ met, amid met → amid (met.filter (Item.passes accepts))) :
    Heeds between amid (sift accepts flow) := by
  induction flow with
  | ended => trivial
  | pause rest ih => exact ⟨late_sift accepts rest ▸ betweenFilter _ heeds.1, ih heeds.2⟩
  | idle woken => exact (late_sift accepts woken ▸ betweenFilter _ heeds :)
  | item found rest ih =>
    obtain ⟨other, after, heeds⟩ := heeds
    have afterRest := late_sift accepts rest ▸ betweenFilter _ after
    cases found with
    | error error => exact ⟨other, afterRest, ih heeds⟩
    | record record =>
      rw [Flow.sift]
      split
      · exact ⟨other, afterRest, ih heeds⟩
      · exact ih heeds
  | mark event rest ih =>
    cases event with
    | ask | take => exact ih heeds
    | fire => exact (late_sift accepts rest ▸ amidFilter _ heeds :)
  | check given notGiven _ ih => exact ih heeds

theorem Cancels.sift (cancels : Cancels possible most flow) (accepts : Record → Bool) :
    Cancels possible most (sift accepts flow) where
  late := late_sift accepts flow ▸ cancels.late.filter rfl
  heeds := cancels.heeds.sift accepts (fun _ met => met.filter rfl) fun _ met =>
    ⟨met.1, met.2.filter rfl⟩

/-- A stage that goes on with what it has taken so far where nothing comes for the time being. -/
structure Takes {α : Type} (stage : α → Flow → Flow) (goOn : α → Flow) : Prop where
  ended : ∀ taken, stage taken ended = goOn taken
  pause : ∀ taken rest, stage taken (pause rest) = goOn taken
  idle : ∀ taken woken, stage taken (idle woken) = check (stage taken woken) (goOn taken)
  mark : ∀ taken event rest, stage taken (mark event rest) = mark event (stage taken rest)
  check : ∀ taken given notGiven,
    stage taken (check given notGiven) = check (stage taken given) (stage taken notGiven)

theorem takes_gather (use : List Record → Flow) :
    Takes (gather use) fun taken => use taken.reverse :=
  ⟨fun _ => rfl, fun _ _ => rfl, fun _ _ => rfl, fun _ _ _ => rfl, fun _ _ _ => rfl⟩

theorem takes_fresh (next : List RecordKey → Flow) : Takes (fresh next) next :=
  ⟨fun _ => rfl, fun _ _ => rfl, fun _ _ => rfl, fun _ _ _ => rfl, fun _ _ _ => rfl⟩

theorem takes_keys (use : List RecordKey → Flow) : Takes (keys use) use :=
  ⟨fun _ => rfl, fun _ _ => rfl, fun _ _ => rfl, fun _ _ _ => rfl, fun _ _ _ => rfl⟩

theorem Takes.cancels {α : Type} {stage : α → Flow → Flow} {goOn : α → Flow}
    (takes : Takes stage goOn) (each : ∀ taken, Cancels possible 1 (goOn taken))
    (lateItem : ∀ taken found rest,
      (∀ taken, Item.CancelledAtMost 1 (late (stage taken rest))) →
      Item.CancelledAtMost 1 (late (stage taken (item found rest))))
    (item : ∀ taken found rest, found ≠ .error .cancelled →
      (∀ taken, Cancels possible 1 (stage taken rest)) →
      Cancels possible 1 (stage taken (item found rest)))
    (taken : α) (calm : Calm possible flow) : Cancels possible 1 (stage taken flow) := by
  -- A flow that is met after the signal need not be calm: whatever it was, one error ends it.
  have lateStage : ∀ flow taken, Item.CancelledAtMost 1 (late (stage taken flow)) := by
    intro flow
    induction flow with
    | ended => exact fun taken => takes.ended taken ▸ (each taken).late
    | pause rest => exact fun taken => takes.pause taken rest ▸ (each taken).late
    | idle woken ih => exact fun taken => takes.idle taken woken ▸ ih taken
    | item found rest ih => exact fun taken => lateItem taken found rest ih
    | mark event rest ih => exact fun taken => takes.mark taken event rest ▸ ih taken
    | check given notGiven ihGiven =>
      exact fun taken => takes.check taken given notGiven ▸ ihGiven taken
  induction flow generalizing taken with
  | ended => exact takes.ended taken ▸ each taken
  | pause rest => exact takes.pause taken rest ▸ each taken
  | idle woken =>
    rw [takes.idle]
    exact ⟨lateStage woken taken, (each taken).heeds⟩
  | item found rest ih => exact item taken found rest calm.1 fun taken => ih taken calm.2.2
  | mark event rest ih =>
    rw [takes.mark]
    refine ⟨lateStage rest taken, ?_⟩
    cases event with
    | ask | take => exact (ih taken calm).heeds
    | fire => exact ⟨calm, lateStage rest taken⟩
  | check given notGiven _ ih =>
    rw [takes.check]
    exact ⟨lateStage given taken, (ih taken calm).heeds⟩

theorem cancels_fail {error : FilterError} (other : Item.error error ≠ .error .cancelled) :
    Cancels possible 1 (fail error) :=
  cancels_item (cancels_ended possible 1) other

theorem cancels_gather {use : List Record → Flow}
    (each : ∀ records, Cancels possible 1 (use records)) (taken : List Record)
    (calm : Calm possible flow) : Cancels possible 1 (gather use taken flow) := by
  refine (takes_gather use).cancels (fun taken => each taken.reverse) ?_ ?_ taken calm
  · intro taken found rest _
    cases found <;> exact Item.cancelledAtMost_one
  · intro taken found rest other later
    cases found with
    | error error => exact cancels_checkCancelled (cancels_fail other)
    | record record => exact cancels_checkCancelled (later (record :: taken))

theorem cancels_fresh {next : List RecordKey → Flow}
    (each : ∀ seen, Cancels possible 1 (next seen)) (seen : List RecordKey)
    (calm : Calm possible flow) : Cancels possible 1 (fresh next seen flow) := by
  refine (takes_fresh next).cancels each ?_ ?_ seen calm
  · intro seen found rest _
    cases found with
    | error error => exact Item.cancelledAtMost_error error
    | record record =>
      rw [fresh]
      split
      · exact Item.cancelledAtMost_one
      · exact Item.cancelledAtMost_one.cons (Item.record_ne_error record _)
  · intro seen found rest other later
    cases found with
    | error error => exact cancels_fail other
    | record record =>
      rw [fresh]
      split
      · exact cancels_checkCancelled (later seen)
      · have noted := cancels_checkCancelled (later (record.key :: seen))
        exact cancels_item noted (Item.record_ne_error record _)

theorem cancels_keys {use : List RecordKey → Flow}
    (each : ∀ found, Cancels possible 1 (use found)) (found : List RecordKey)
    (calm : Calm possible flow) : Cancels possible 1 (keys use found flow) := by
  refine (takes_keys use).cancels each ?_ ?_ found calm
  · intro found item rest later
    cases item with
    | error error => exact Item.cancelledAtMost_error error
    | record record => exact later (record.key :: found)
  · intro found item rest other later
    cases item with
    | error error => exact cancels_fail other
    | record record => exact later (record.key :: found)

theorem cancels_remaining (excluded : List RecordKey) (records : List Record) :
    Cancels possible 1 (remaining excluded records) := by
  induction records with
  | nil => exact cancels_checkCancelled (cancels_ended possible 1)
  | cons record rest ih =>
    refine cancels_checkCancelled ?_
    split
    · exact ih
    · exact cancels_item ih (Item.record_ne_error record _)

end Cancels

end Flow

namespace Expression

variable {possible : Prop} {source : Flow}

theorem cancels_alternatives {parts : List Expression}
    (each : ∀ part ∈ parts, ∀ source, Calm possible source →
      Cancels possible 2 (part.evaluate source))
    (records : List Record) (seen : List RecordKey) :
    Cancels possible 1 (alternatives parts (ofRecords records) seen) := by
  induction parts generalizing seen with
  | nil => exact cancels_ended possible 1
  | cons part parts ih =>
    have later := ih fun other member => each other (List.mem_cons_of_mem _ member)
    have first := each part List.mem_cons_self _ (calm_ofRecords possible records)
    exact cancels_checkCancelled (cancels_fresh later seen first.calm)

theorem cancels_anyOf {part : Expression} {parts : List Expression}
    (each : ∀ other ∈ part :: parts, ∀ source, Calm possible source →
      Cancels possible 2 (other.evaluate source))
    (calm : Calm possible source) :
    Cancels possible 1 ((anyOf (part :: parts)).evaluate source) :=
  cancels_checkCancelled (cancels_gather (fun records => cancels_alternatives each records []) []
    (cancels_guarded calm).calm)

theorem cancels_complement {part : Expression}
    (each : ∀ source, Calm possible source → Cancels possible 2 (part.evaluate source))
    (calm : Calm possible source) : Cancels possible 1 ((complement part).evaluate source) := by
  refine cancels_gather (fun records => ?_) [] (cancels_guarded calm).calm
  have excluded := each _ (calm_ofRecords possible records)
  exact cancels_keys (fun found => cancels_remaining found records) [] excluded.calm

theorem cancels_foldl {order : List Expression}
    (each : ∀ part ∈ order, ∀ source, Calm possible source →
      Cancels possible 2 (part.evaluate source))
    {flow : Flow} (cancels : Cancels possible 2 flow) :
    Cancels possible 2 (order.foldl (fun flow part => part.evaluate flow) flow) := by
  induction order generalizing flow with
  | nil => exact cancels
  | cons part order ih =>
    refine ih (fun other member => each other (List.mem_cons_of_mem _ member)) ?_
    exact each part List.mem_cons_self flow cancels.calm

/-- Whatever comes behind, a guard makes of a calm flow one that gives its error twice at the most;
so each stage needs no more of the one before it than that it is calm. -/
theorem cancels_evaluate (expression : Expression) :
    ∀ source, Calm possible source → Cancels possible 2 (expression.evaluate source) := by
  induction expression using Expression.induction with
  | leaf condition => exact fun source calm => (cancels_guarded calm).sift condition.accepts
  | allOf planned parts ih =>
    intro source calm
    rw [evaluate_allOf]
    exact cancels_foldl (fun part member => ih part (mem_executionOrder.mp member))
      (cancels_guarded calm)
  | anyOf parts ih =>
    intro source calm
    cases parts with
    | nil => exact cancels_guarded calm
    | cons part parts => exact (cancels_anyOf ih calm).mono (Nat.le_succ 1)
  | complement part ih =>
    exact fun source calm => (cancels_complement ih calm).mono (Nat.le_succ 1)

inductive Gathers : Expression → Prop
  | anyOf (part : Expression) (parts : List Expression) : Gathers (anyOf (part :: parts))
  | complement (part : Expression) : Gathers (complement part)
  | allOf (planned : Bool) (parts : List Expression) (last : Expression)
    (runsLast : (allOf planned parts).executionOrder.getLast? = some last)
    (gathers : Gathers last) : Gathers (allOf planned parts)

theorem cancels_gathers {expression : Expression} (gathers : expression.Gathers)
    (calm : Calm possible source) : Cancels possible 1 (expression.evaluate source) := by
  induction gathers generalizing source with
  | anyOf part parts => exact cancels_anyOf (fun other _ => cancels_evaluate other) calm
  | complement part => exact cancels_complement (cancels_evaluate part) calm
  | allOf planned parts last runsLast _ ih =>
    obtain ⟨before, order⟩ := List.getLast?_eq_some_iff.mp runsLast
    rw [evaluate_allOf, order, List.foldl_append]
    exact ih (cancels_foldl (fun part _ => cancels_evaluate part) (cancels_guarded calm)).calm

theorem cancels_ofEvents {expression : Expression} (plain : expression.parts = [])
    {events : List Event} (clean : .give (.error .cancelled) ∉ events) :
    Cancels (.fire ∈ events) 1 (expression.evaluate (ofEvents events)) := by
  have guarded := cancels_guarded_ofEvents clean
  cases expression with
  | leaf condition => exact guarded.sift condition.accepts
  | allOf planned parts =>
    obtain rfl : parts = [] := plain
    rw [evaluate_allOf]
    cases planned <;> exact guarded
  | anyOf parts =>
    obtain rfl : parts = [] := plain
    exact guarded
  | complement part => cases plain

/-- However long somebody goes on pulling, the error of a cancellation comes twice at the most, and
nothing but this error comes after it. It comes once at the most where the source never gives the
signal during a pull, where nothing is combined, and where the stage that answers takes its whole
source first. -/
theorem serve_evaluate_cancelledAtMost (expression : Expression) {events : List Event}
    (clean : .give (.error .cancelled) ∉ events) (requests : List Request) :
    let met := ((expression.evaluate (ofEvents events)).serve .start requests).1.reduceOption
    Item.CancelledAtMost 2 met ∧
      (.fire ∉ events ∨ expression.parts = [] ∨ expression.Gathers →
        Item.CancelledAtMost 1 met) := by
  intro met
  have calm : Calm (.fire ∈ events) (ofEvents events) :=
    (heeds_answer clean).mono (fun _ => id) fun _ => And.left
  have cancels := expression.cancels_evaluate _ calm
  refine ⟨serve_cancels cancels rfl requests (Nat.le_succ 1) fun _ => Nat.le_refl 2, ?_⟩
  rintro (never | plain | gathers)
  · exact serve_cancels cancels rfl requests (Nat.le_refl 1) fun canFire => absurd canFire never
  · exact serve_cancels (cancels_ofEvents plain clean) rfl requests (Nat.le_refl 1)
      fun _ => Nat.le_refl 1
  · exact serve_cancels (cancels_gathers gathers calm) rfl requests (Nat.le_refl 1)
      fun _ => Nat.le_refl 1

theorem serve_evaluate_cancelledAtMost_complement :
    let line (number : Nat) (level message : String) : Record :=
      ⟨"app.log", number, .utc ⟨0, 0⟩, level, message, "", none, none⟩
    let isError : Expression := leaf ⟨.level, .equals, .string "error",
      fun record => record.level = "error"⟩
    let isDisk : Expression := leaf ⟨.message, .equals, .string "disk",
      fun record => record.message = "disk"⟩
    let expression := allOf true [isError, complement isDisk]
    let events : List Event :=
      [.give (.record (line 1 "error" "net")), .fire, .give (.record (line 2 "info" "net"))]
    let requests : List Request := [.pull, .pull, .fire, .pull]
    let met := ((expression.evaluate (ofEvents events)).serve .start requests).1.reduceOption
    .give (.error .cancelled) ∉ events ∧ expression.Gathers ∧ Item.CancelledAtMost 2 met ∧
      Item.CancelledAtMost 1 met := by
  intro line isError isDisk expression events requests met
  have clean : .give (.error .cancelled) ∉ events := by simp [events]
  have gathers : expression.Gathers :=
    .allOf true [isError, complement isDisk] (complement isDisk) rfl (.complement isDisk)
  obtain ⟨twice, once⟩ := serve_evaluate_cancelledAtMost expression clean requests
  exact ⟨clean, gathers, twice, once (.inr (.inr gathers))⟩

/-- Two conditions, and a signal during a pull that finds a record which passes none of them: the
guard between the conditions gives its error in that pull, and the guard in front of them gives its
own one to the next pull. -/
theorem cancelled_twice :
    let isError : Expression := leaf ⟨.level, .equals, .string "error",
      fun record => record.level = "error"⟩
    let isDisk : Expression := leaf ⟨.message, .equals, .string "disk",
      fun record => record.message = "disk"⟩
    let events : List Event :=
      [.fire, .give (.record ⟨"app.log", 1, .utc ⟨0, 0⟩, "info", "net", "", none, none⟩)]
    let flow := (allOf true [isError, isDisk]).evaluate (ofEvents events)
    let served := flow.serve .start [.pull, .pull, .pull]
    .give (.error .cancelled) ∉ events ∧
      served.1 = [some (.error .cancelled), some (.error .cancelled), none] ∧
      ¬ Item.CancelledAtMost 1 served.1.reduceOption := by
  intro isError isDisk events flow served
  have answers : served.1 = [some (.error .cancelled), some (.error .cancelled), none] := by decide
  refine ⟨by simp [events], answers, fun once => ?_⟩
  have twice : served.1.reduceOption.count (.error .cancelled) = 2 := by rw [answers]; rfl
  exact absurd once.count_le (by omega)

end Expression

end LogSieve
