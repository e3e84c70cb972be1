import LogSieve.Proofs.AfterCancellation
import LogSieve.Proofs.Rearrangement

/-! How much of its source an expression takes, and when. While nobody gives the signal, the course
of a flow is a list of steps: events at the source, and answers to pulls. Conditions and
conjunctions change nothing in the course of their source but leave out the answers that do not
pass, so an answer comes as soon as its item has been taken. A stage that takes everything puts all
events in front of its first answer, and no stage behind it brings an event back in between. -/

namespace LogSieve

namespace Flow

inductive Step where
  | mark (event : Mark)
  | answer (found : Option Item)
  deriving DecidableEq, Repr

/-- All steps of a flow; behind them every pull is answered with nothing. -/
@[simp] def course : Flow → List Step
  | ended => []
  | pause rest => .answer none :: course rest
  | idle _ => []
  | item found rest => .answer (some found) :: course rest
  | mark event rest => .mark event :: course rest
  | check _ notGiven => course notGiven

namespace Step

/-- What so many pulls meet: their answers, and the events in front of the last answer. -/
@[simp] def meet : Nat → List Step → List (Option Item) × List Mark
  | 0, _ => ([], [])
  | pulls + 1, [] => (List.replicate (pulls + 1) none, [])
  | pulls + 1, mark event :: rest =>
    let met := meet (pulls + 1) rest
    (met.1, event :: met.2)
  | pulls + 1, answer found :: rest =>
    let met := meet pulls rest
    (found :: met.1, met.2)

/-- The events in front of the first error or the first answer that is none. -/
@[simp] def drawn : List Step → List Mark
  | [] => []
  | mark event :: rest => event :: drawn rest
  | answer (some (.record _)) :: rest => drawn rest
  | answer (some (.error _)) :: _ => []
  | answer none :: _ => []

@[simp] def passes (accepts : Record → Bool) : Step → Bool
  | answer (some found) => found.passes accepts
  | answer none => true
  | mark _ => true

variable {accepts : Record → Bool} {steps : List Step}

@[simp] theorem meet_nil (pulls : Nat) : meet pulls [] = (List.replicate pulls none, []) := by
  cases pulls <;> rfl

@[simp] theorem meet_nothing (pulls count : Nat) :
    meet pulls (List.replicate count (.answer none)) = (List.replicate pulls none, []) := by
  induction count generalizing pulls with
  | zero => simp
  | succ count ih => cases pulls <;> simp [List.replicate_succ, ih]

theorem meet_append_nothing (pulls count : Nat) (steps : List Step) :
    meet pulls (steps ++ List.replicate count (.answer none)) = meet pulls steps := by
  induction steps generalizing pulls with
  | nil => simp
  | cons step rest ih =>
    cases pulls with
    | zero => simp
    | succ pulls => cases step <;> simp [ih]

@[simp] theorem meet_answers (pulls : Nat) (answers : List (Option Item)) :
    (meet pulls (answers.map answer)).2 = [] := by
  induction answers generalizing pulls with
  | nil => simp
  | cons found rest ih => cases pulls <;> simp [ih]

theorem meet_events (pulls : Nat) (events : List Mark) (answers : List (Option Item)) :
    (meet (pulls + 1) (events.map mark ++ answers.map answer)).2 = events := by
  induction events with
  | nil => simp
  | cons event rest ih => simp [ih]

@[simp] theorem drawn_append_nothing : drawn (steps ++ [.answer none]) = drawn steps := by
  induction steps using drawn.induct <;> simp_all

@[simp] theorem drawn_filter : drawn (steps.filter (passes accepts)) = drawn steps := by
  induction steps using drawn.induct with
  | case1 => rfl
  | case2 event rest ih => simp [List.filter_cons, ih]
  | case3 record rest ih =>
    by_cases accepted : accepts record <;> simp [Item.passes, accepted, ih]
  | case4 error rest => simp [List.filter_cons, Item.passes]
  | case5 rest => simp [List.filter_cons]

@[simp] theorem drawn_answers (answers : List (Option Item)) :
    drawn (answers.map answer) = [] := by
  induction answers with
  | nil => rfl
  | cons found rest ih => rcases found with _ | _ | _ <;> simp [ih]

@[simp] theorem drawn_events (events : List Mark) (answers : List (Option Item)) :
    drawn (events.map mark ++ answers.map answer) = events := by
  induction events with
  | nil => simp
  | cons event rest ih => simp [ih]

theorem mem_of_mem_meet {pulls : Nat} {event : Mark} (member : event ∈ (meet pulls steps).2) :
    mark event ∈ steps := by
  induction steps generalizing pulls with
  | nil => simp at member
  | cons step rest ih =>
    cases pulls with
    | zero => simp at member
    | succ pulls =>
      cases step with
      | mark other =>
        rcases List.mem_cons.mp member with rfl | later
        · exact List.mem_cons_self
        · exact List.mem_cons_of_mem _ (ih later)
      | answer found => exact List.mem_cons_of_mem _ (ih member)

theorem mem_of_mem_drawn {event : Mark} (member : event ∈ drawn steps) : mark event ∈ steps := by
  induction steps using drawn.induct with
  | case1 | case4 | case5 => simp at member
  | case2 other rest ih => exact (List.mem_cons.mp member).elim (by simp_all) (by simp_all)
  | case3 record rest ih => simp_all

end Step

open Step

variable {events : List Mark} {flow : Flow} {tally : Tally}

theorem serve_course {pulls : Nat} (unfired : tally.fired = false)
    (quiet : .fire ∉ (meet pulls flow.course).2) :
    flow.serve tally (List.replicate pulls .pull) =
      ((meet pulls flow.course).1, (meet pulls flow.course).2.foldl Tally.note tally) := by
  induction pulls generalizing flow tally with
  | zero => simp [serve]
  | succ pulls ih =>
    rw [List.replicate_succ]
    -- One pull goes through events and looks at the signal until it comes to an answer.
    induction flow generalizing tally with
    | ended => simp [serve, pull, ih unfired, List.replicate_succ]
    | pause rest => simp [serve, pull, ih unfired quiet]
    | idle woken => simp [serve, pull, unfired, ih unfired, List.replicate_succ]
    | item found rest => simp [serve, pull, ih unfired quiet]
    | mark event rest later =>
      have other : event ≠ .fire := (List.ne_of_not_mem_cons quiet).symm
      have still : (tally.note event).fired = false := by
        cases event with
        | ask | take => exact unfired
        | fire => contradiction
      exact later still (List.not_mem_of_not_mem_cons quiet)
    | check given notGiven _ later =>
      simpa [serve, pull, unfired] using later unfired quiet

/-! The stages -/

@[simp] theorem course_ofRecords (records : List Record) :
    (ofRecords records).course = (records.map fun record => some (.record record)).map .answer := by
  induction records with
  | nil => rfl
  | cons record rest ih => simp [ofRecords, ih]

@[simp] theorem course_guarded (flow : Flow) :
    (guarded flow).course = flow.course ++ [.answer none] := by
  have behind : (guarded.behind flow).course = flow.course ++ [.answer none] := by
    induction flow with
    | ended | idle => rfl
    | check _ _ _ ih => exact ih
    | pause _ ih | item _ _ ih | mark _ _ ih => simp [guarded.behind, ih]
  simpa [guarded] using behind

@[simp] theorem course_sift (accepts : Record → Bool) (flow : Flow) :
    (sift accepts flow).course = flow.course.filter (passes accepts) := by
  induction flow with
  | ended | idle => rfl
  | pause rest ih => simp [sift, List.filter_cons, ih]
  | item found rest ih =>
    cases found with
    | record record =>
      by_cases accepted : accepts record <;> simp [sift, Item.passes, accepted, ih]
    | error error => simp [sift, List.filter_cons, Item.passes, ih]
  | mark event rest ih => simp [sift, List.filter_cons, ih]
  | check _ _ _ ih => exact ih

/-- The first answer comes behind these events, and no event comes behind it. -/
def Draws (events : List Mark) (flow : Flow) : Prop :=
  ∃ answers : List (Option Item), flow.course = events.map .mark ++ answers.map .answer

theorem Draws.drawn_eq (draws : Draws events flow) : drawn flow.course = events := by
  obtain ⟨answers, same⟩ := draws
  rw [same, drawn_events]

theorem draws_ofRecords (records : List Record) : Draws [] (ofRecords records) :=
  ⟨_, course_ofRecords records⟩

theorem draws_ended : Draws [] ended := ⟨[], rfl⟩

theorem Draws.item (draws : Draws [] flow) (found : Item) : Draws [] (item found flow) := by
  obtain ⟨answers, same⟩ := draws
  exact ⟨some found :: answers, by simpa using same⟩

theorem Draws.guarded (draws : Draws events flow) : Draws events (guarded flow) := by
  obtain ⟨answers, same⟩ := draws
  exact ⟨answers ++ [none], by simp [same]⟩

theorem Draws.sift (draws : Draws events flow) (accepts : Record → Bool) :
    Draws events (sift accepts flow) := by
  obtain ⟨answers, same⟩ := draws
  refine ⟨answers.filter fun found => passes accepts (.answer found), ?_⟩
  have kept : (events.map Step.mark).filter (passes accepts) = events.map .mark := by
    simp [List.filter_eq_self]
  simp [same, kept, List.filter_map, Function.comp_def]

theorem draws_gather {use : List Record → Flow} (each : ∀ records, Draws [] (use records))
    (taken : List Record) (flow : Flow) : Draws (drawn flow.course) (gather use taken flow) := by
  induction flow generalizing taken with
  | ended | pause | idle => exact each taken.reverse
  | item found rest ih =>
    cases found with
    | record record => exact ih (record :: taken)
    | error error => exact draws_ended.item (.error error)
  | mark event rest ih =>
    obtain ⟨answers, same⟩ := ih taken
    exact ⟨answers, by simp [gather, same]⟩
  | check _ _ _ ih => exact ih taken

theorem Takes.draws {α : Type} {stage : α → Flow → Flow} {goOn : α → Flow}
    (takes : Takes stage goOn) (each : ∀ taken, Draws [] (goOn taken))
    (item : ∀ taken found rest, (∀ taken, Draws [] (stage taken rest)) →
      Draws [] (stage taken (item found rest)))
    (silent : Draws [] flow) (taken : α) : Draws [] (stage taken flow) := by
  obtain ⟨answers, same⟩ := silent
  induction flow generalizing taken answers with
  | ended => exact takes.ended taken ▸ each taken
  | pause rest => exact takes.pause taken rest ▸ each taken
  | idle woken =>
    rw [takes.idle]
    exact each taken
  | item found rest ih =>
    refine item taken found rest fun taken => ih taken answers.tail ?_
    cases answers <;> simp_all
  | mark event rest => cases answers <;> simp at same
  | check given notGiven _ ih =>
    rw [takes.check]
    exact ih taken answers same

theorem draws_fresh {next : List RecordKey → Flow} (each : ∀ seen, Draws [] (next seen))
    (silent : Draws [] flow) (seen : List RecordKey) : Draws [] (fresh next seen flow) := by
  refine (takes_fresh next).draws each (fun seen found rest later => ?_) silent seen
  cases found with
  | error error => exact draws_ended.item (.error error)
  | record record =>
    rw [fresh]
    split
    · exact later seen
    · exact (later (record.key :: seen)).item (.record record)

theorem draws_keys {use : List RecordKey → Flow} (each : ∀ found, Draws [] (use found))
    (silent : Draws [] flow) (found : List RecordKey) : Draws [] (keys use found flow) := by
  refine (takes_keys use).draws each (fun found item rest later => ?_) silent found
  cases item with
  | error error => exact draws_ended.item (.error error)
  | record record => exact later (record.key :: found)

theorem draws_remaining (excluded : List RecordKey) (records : List Record) :
    Draws [] (remaining excluded records) := by
  induction records with
  | nil => exact draws_ended
  | cons record rest ih =>
    by_cases known : record.key ∈ excluded
    · simpa [remaining, known, Draws] using ih
    · simpa [remaining, known, Draws] using ih.item (.record record)

end Flow

open LogSieve.Flow LogSieve.Flow.Step

namespace Flow.Event

@[simp] def given : List Event → List Item
  | [] => []
  | give found :: rest => found :: given rest
  | fire :: rest => given rest
  | pause :: rest => given rest

@[simp] def marks : Event → List Mark
  | give _ => [.take, .ask]
  | fire => [.fire]
  | pause => [.ask]

variable {events : List Event}

theorem count_take_marks (events : List Event) :
    (events.flatMap marks).count .take = (given events).length := by
  induction events with
  | nil => rfl
  | cons event rest ih => cases event <;> simp [ih]

theorem fire_notMem_course (quiet : .fire ∉ events) :
    .mark .fire ∉ (ofEvents.answer events).course := by
  induction events with
  | nil => simp [ofEvents.answer]
  | cons event rest ih =>
    have later := ih (List.not_mem_of_not_mem_cons quiet)
    cases event with
    | give _ | pause => simpa [ofEvents.answer] using later
    | fire => simp at quiet

theorem count_take_drawn (events : List Event) :
    (drawn (ofEvents.answer events).course).count .take =
      (Item.upToError (items events)).length := by
  induction events with
  | nil => rfl
  | cons event rest ih =>
    rcases event with (_ | _) | _ | _
    all_goals simp_all [ofEvents.answer, items, Item.upToError, Item.leading, Item.firstError?]

theorem fire_notMem_marks (quiet : .fire ∉ events) : .fire ∉ events.flatMap marks := by
  simp only [List.mem_flatMap, not_exists, not_and]
  intro event member
  cases event with
  | give _ | pause => simp
  | fire => exact absurd member quiet

end Flow.Event

theorem Tally.foldl_note {events : List Mark} (quiet : .fire ∉ events) :
    events.foldl Tally.note .start = ⟨false, events.count .take, 0⟩ := by
  have noted (taken : Nat) :
      events.foldl Tally.note ⟨false, taken, 0⟩ = ⟨false, taken + events.count .take, 0⟩ := by
    induction events generalizing taken with
    | nil => rfl
    | cons event rest ih =>
      have later := ih (List.not_mem_of_not_mem_cons quiet)
      cases event with
      | ask => simpa [Tally.note] using later taken
      | take => simpa [Tally.note, Nat.add_assoc, Nat.add_comm 1] using later (taken + 1)
      | fire => simp at quiet
  simpa [Tally.start] using noted 0

namespace Expression

/-! Stages that take everything -/

theorem draws_alternatives {parts : List Expression}
    (each : ∀ part ∈ parts, ∀ source, Draws [] source → Draws [] (part.evaluate source))
    (records : List Record) (seen : List RecordKey) :
    Draws [] (alternatives parts (ofRecords records) seen) := by
  induction parts generalizing seen with
  | nil => exact draws_ended
  | cons part parts ih =>
    have later := ih fun other member => each other (List.mem_cons_of_mem _ member)
    exact draws_fresh later (each part List.mem_cons_self _ (draws_ofRecords records)) seen

theorem draws_anyOf {part : Expression} {parts : List Expression}
    (each : ∀ other ∈ part :: parts, ∀ source, Draws [] source → Draws [] (other.evaluate source))
    (source : Flow) : Draws (drawn source.course) ((anyOf (part :: parts)).evaluate source) := by
  have gathered := draws_gather (fun records => draws_alternatives each records []) []
    (guarded source)
  simpa [evaluate, Draws] using gathered

theorem draws_complement {part : Expression}
    (each : ∀ source, Draws [] source → Draws [] (part.evaluate source)) (source : Flow) :
    Draws (drawn source.course) ((complement part).evaluate source) := by
  have use (records : List Record) : Draws [] (keys (fun excluded => remaining excluded records) []
      (part.evaluate (ofRecords records))) :=
    draws_keys (fun excluded => draws_remaining excluded records)
      (each _ (draws_ofRecords records)) []
  simpa [evaluate] using draws_gather use [] (guarded source)

/-- What draws these events goes on drawing them behind an expression, and no others. -/
theorem draws_evaluate (expression : Expression) {events : List Mark} {source : Flow}
    (draws : Draws events source) : Draws events (expression.evaluate source) := by
  induction expression using Expression.induction generalizing events source with
  | leaf condition => exact draws.guarded.sift condition.accepts
  | allOf planned parts ih =>
    rw [evaluate_allOf]
    exact List.foldlRecOn (motive := Draws events) _ _ draws.guarded
      fun flow known part member => ih part (mem_executionOrder.mp member) known
  | anyOf parts ih =>
    cases parts with
    | nil => exact draws.guarded
    | cons part parts =>
      exact draws.drawn_eq ▸ draws_anyOf (fun other known _ silent => ih other known silent) source
  | complement part ih =>
    exact draws.drawn_eq ▸ draws_complement (fun _ silent => ih silent) source

theorem drawn_evaluate (expression : Expression) (source : Flow) :
    drawn (expression.evaluate source).course = drawn source.course := by
  induction expression using Expression.induction generalizing source with
  | leaf condition =>
    rw [evaluate, course_sift, drawn_filter, course_guarded, drawn_append_nothing]
  | allOf planned parts ih =>
    rw [evaluate_allOf]
    refine List.foldlRecOn (motive := fun flow : Flow => drawn flow.course = drawn source.course)
      _ _ (by simp) fun flow same part member => ?_
    rw [ih part (mem_executionOrder.mp member), same]
  | anyOf parts ih =>
    cases parts with
    | nil => simp [evaluate]
    | cons part parts =>
      exact (draws_anyOf (fun other _ _ silent => other.draws_evaluate silent) source).drawn_eq
  | complement part ih =>
    exact (draws_complement (fun _ silent => part.draws_evaluate silent) source).drawn_eq

theorem draws_foldl {order : List Expression}
    (each : ∀ part ∈ order, part.comparesKeys = true → ∀ source,
      Draws (drawn source.course) (part.evaluate source))
    (compares : ∃ part ∈ order, part.comparesKeys = true) (flow : Flow) :
    Draws (drawn flow.course) (order.foldl (fun flow part => part.evaluate flow) flow) := by
  induction order generalizing flow with
  | nil => simp at compares
  | cons part order ih =>
    rw [List.foldl_cons]
    -- The first part that compares keys takes everything; the parts behind it bring no event back.
    by_cases first : part.comparesKeys = true
    · exact List.foldlRecOn (motive := Draws (drawn flow.course)) _ _
        (each part List.mem_cons_self first flow) fun _ draws later _ => later.draws_evaluate draws
    · have others : ∃ part ∈ order, part.comparesKeys = true := by simpa [first] using compares
      have later := ih (fun other member => each other (List.mem_cons_of_mem _ member)) others
        (part.evaluate flow)
      rwa [drawn_evaluate] at later

theorem draws_of_comparesKeys (expression : Expression) (compares : expression.comparesKeys = true)
    (source : Flow) : Draws (drawn source.course) (expression.evaluate source) := by
  induction expression using Expression.induction generalizing source with
  | leaf condition => simp [comparesKeys] at compares
  | allOf planned parts ih =>
    have some : ∃ part ∈ (allOf planned parts).executionOrder, part.comparesKeys = true := by
      simpa [comparesKeys, someCompareKeys_eq_any] using compares
    rw [evaluate_allOf]
    simpa using draws_foldl (fun part member => ih part (mem_executionOrder.mp member)) some
      (guarded source)
  | anyOf parts ih =>
    cases parts with
    | nil => simp [comparesKeys] at compares
    | cons part parts =>
      exact draws_anyOf (fun other _ _ silent => other.draws_evaluate silent) source
  | complement part ih => exact draws_complement (fun _ silent => part.draws_evaluate silent) source

/-! Stages that answer as they go -/

theorem passes_true : passes (fun _ => true) = fun _ => true := by
  funext step
  rcases step with _ | _ | _ | _ <;> rfl

theorem passes_and (first second : Record → Bool) :
    (fun step => passes first step && passes second step) =
      passes fun record => first record && second record := by
  funext step
  rcases step with _ | _ | _ | _ <;> rfl

theorem course_foldl {order : List Expression}
    (each : ∀ part ∈ order, ∀ source, ∃ count, (part.evaluate source).course =
      source.course.filter (passes part.admits) ++ List.replicate count (.answer none))
    (flow : Flow) : ∃ count, (order.foldl (fun flow part => part.evaluate flow) flow).course =
      flow.course.filter (passes fun record => order.all fun part => part.admits record) ++
        List.replicate count (.answer none) := by
  induction order generalizing flow with
  | nil => exact ⟨0, by simp [passes_true]⟩
  | cons part order ih =>
    obtain ⟨first, same⟩ := each part List.mem_cons_self flow
    obtain ⟨others, later⟩ :=
      ih (fun other member => each other (List.mem_cons_of_mem _ member)) (part.evaluate flow)
    refine ⟨first + others, ?_⟩
    have nothing : (List.replicate first (Step.answer none)).filter
        (passes fun record => order.all fun part => part.admits record) =
        List.replicate first (.answer none) := List.filter_replicate_of_pos rfl
    rw [List.foldl_cons, later, same, List.filter_append, nothing, List.filter_filter, passes_and,
      List.append_assoc, List.replicate_append_replicate]
    simp only [List.all_cons, Bool.and_comm]

theorem course_evaluate (expression : Expression) (plain : expression.comparesKeys = false)
    (source : Flow) : ∃ count, (expression.evaluate source).course =
      source.course.filter (passes expression.admits) ++ List.replicate count (.answer none) := by
  induction expression using Expression.induction generalizing source with
  | leaf condition =>
    refine ⟨1, ?_⟩
    rw [evaluate, course_sift, course_guarded, List.filter_append]
    rfl
  | allOf planned parts ih =>
    have each : ∀ part ∈ (allOf planned parts).executionOrder, part.comparesKeys = false := by
      simpa [comparesKeys, someCompareKeys_eq_any] using plain
    obtain ⟨count, same⟩ := course_foldl
      (fun part member => ih part (mem_executionOrder.mp member) (each part member))
      (guarded source)
    refine ⟨1 + count, ?_⟩
    rw [evaluate_allOf, same, admits_allOf, course_guarded, List.filter_append, List.append_assoc,
      ← List.replicate_append_replicate]
    rfl
  | anyOf parts ih =>
    cases parts with
    | nil => exact ⟨1, by simp [evaluate, admits, passes_true]⟩
    | cons part parts => simp [comparesKeys] at plain
  | complement part ih => simp [comparesKeys] at plain

theorem meet_answered {accepts : Record → Bool} {events : List Event} {pulls : Nat} {found : Item}
    (answered : (meet (pulls + 1)
      ((ofEvents.answer events).course.filter (passes accepts))).1[pulls]? = some (some found)) :
    ∃ before after, events = before ++ .give found :: after ∧ ∀ later,
      let met := meet (pulls + 1)
        ((ofEvents.answer (before ++ .give found :: later)).course.filter (passes accepts))
      met.1.reduceOption = (Event.given before).filter (Item.passes accepts) ++ [found] ∧
        met.2 = before.flatMap Event.marks ++ [.take] := by
  induction events generalizing pulls with
  | nil => simp [ofEvents.answer] at answered
  | cons event rest ih =>
    cases event with
    | give item =>
      by_cases kept : item.passes accepts = true
      · cases pulls with
        | zero =>
          obtain rfl : item = found := by
            simpa [ofEvents.answer, List.filter_cons, kept] using answered
          refine ⟨[], rest, rfl, fun later => ?_⟩
          simp [ofEvents.answer, List.filter_cons, kept]
        | succ pulls =>
          obtain ⟨before, after, rfl, same⟩ := @ih pulls (by
            simpa [ofEvents.answer, List.filter_cons, kept] using answered)
          refine ⟨.give item :: before, after, rfl, fun later => ?_⟩
          simpa [ofEvents.answer, List.filter_cons, kept] using same later
      · obtain ⟨before, after, rfl, same⟩ := ih (by
          simpa [ofEvents.answer, List.filter_cons, kept] using answered)
        refine ⟨.give item :: before, after, rfl, fun later => ?_⟩
        simpa [ofEvents.answer, List.filter_cons, kept] using same later
    | fire =>
      obtain ⟨before, after, rfl, same⟩ := ih (by
        simpa [ofEvents.answer, List.filter_cons] using answered)
      refine ⟨.fire :: before, after, rfl, fun later => ?_⟩
      simpa [ofEvents.answer, List.filter_cons] using same later
    | pause =>
      cases pulls with
      | zero => simp [ofEvents.answer, List.filter_cons] at answered
      | succ pulls =>
        obtain ⟨before, after, rfl, same⟩ := ih (by
          simpa [ofEvents.answer, List.filter_cons] using answered)
        refine ⟨.pause :: before, after, rfl, fun later => ?_⟩
        simpa [ofEvents.answer, List.filter_cons] using same later

theorem serve_of_plain {expression : Expression} (plain : expression.comparesKeys = false)
    {events : List Event} {pulls : Nat} {answers : List (Option Item)} {marks : List Mark}
    (met : meet (pulls + 1) ((ofEvents.answer events).course.filter (passes expression.admits)) =
      (answers, marks)) (quiet : .fire ∉ marks) :
    (expression.evaluate (ofEvents events)).serve .start (List.replicate (pulls + 1) .pull) =
      (answers, ⟨false, marks.count .take, 0⟩) := by
  obtain ⟨count, same⟩ := course_evaluate expression plain (ofEvents events)
  have metAll : meet (pulls + 1) (expression.evaluate (ofEvents events)).course =
      (answers, .ask :: marks) := by
    rw [same, meet_append_nothing]
    simp [ofEvents, List.filter_cons, met]
  have quietAll : .fire ∉ .ask :: marks := by simpa using quiet
  rw [serve_course rfl (by simpa [metAll] using quiet), metAll, Tally.foldl_note quietAll]
  simp

theorem serve_of_comparesKeys {expression : Expression}
    (compares : expression.comparesKeys = true) {events : List Event} (quiet : .fire ∉ events)
    (pulls : Nat) :
    ((expression.evaluate (ofEvents events)).serve .start (List.replicate (pulls + 1) .pull)).2 =
      ⟨false, (Item.upToError (Event.items events)).length, 0⟩ := by
  obtain ⟨answers, same⟩ := draws_of_comparesKeys expression compares (ofEvents events)
  have quietDrawn : .fire ∉ drawn (ofEvents events).course := fun member =>
    Event.fire_notMem_course quiet (by simpa [ofEvents] using mem_of_mem_drawn member)
  have met := meet_events pulls (drawn (ofEvents events).course) answers
  rw [← same] at met
  rw [serve_course rfl (met ▸ quietDrawn), met, Tally.foldl_note quietDrawn]
  simpa [ofEvents] using Event.count_take_drawn events

/-- An expression that compares no keys answers as soon as it has taken an item that passes: no item
behind that one is taken, and whatever the source holds behind it makes no difference. An expression
that compares keys takes, in its first pull, all items up to the first error or up to the end of the
source, and in later pulls no more. -/
theorem serve_evaluate_taken (expression : Expression) {events : List Event}
    (quiet : .fire ∉ events) (pulls : Nat) :
    let served (source : List Event) :=
      (expression.evaluate (ofEvents source)).serve .start (List.replicate (pulls + 1) .pull)
    (expression.comparesKeys = false →
      ∀ found, (served events).1[pulls]? = some (some found) →
        ∃ before after, events = before ++ .give found :: after ∧ ∀ later,
          (served (before ++ .give found :: later)).1.reduceOption =
            (Event.given before).filter (Item.passes expression.admits) ++ [found] ∧
          (served (before ++ .give found :: later)).2 =
            ⟨false, (Event.given before).length + 1, 0⟩) ∧
    (expression.comparesKeys = true →
      (served events).2 = ⟨false, (Item.upToError (Event.items events)).length, 0⟩) := by
  intro served
  refine ⟨fun plain found answered => ?_,
    fun compares => serve_of_comparesKeys compares quiet pulls⟩
  have quietMet : .fire ∉ (meet (pulls + 1)
      ((ofEvents.answer events).course.filter (passes expression.admits))).2 := fun member =>
    Event.fire_notMem_course quiet (List.mem_of_mem_filter (mem_of_mem_meet member))
  simp only [served, serve_of_plain plain rfl quietMet] at answered
  obtain ⟨before, after, rfl, same⟩ := meet_answered answered
  refine ⟨before, after, rfl, fun later => ?_⟩
  obtain ⟨answers, marks⟩ := same later
  have quietBefore : .fire ∉ before := fun member => quiet (List.mem_append_left _ member)
  have quietLater : .fire ∉ before.flatMap Event.marks ++ [.take] := by
    simpa using Event.fire_notMem_marks quietBefore
  have taken := serve_of_plain plain rfl (marks ▸ quietLater)
  simp only [served]
  rw [taken, answers, marks]
  simp [Event.count_take_marks]

theorem serve_evaluate_taken_broken :
    let line (number : Nat) (level message : String) : Record :=
      ⟨"app.log", number, .utc ⟨0, 0⟩, level, message, "", none, none⟩
    let isError : Expression := leaf ⟨.level, .equals, .string "error",
      fun record => record.level = "error"⟩
    let isDisk : Expression := leaf ⟨.message, .equals, .string "disk",
      fun record => record.message = "disk"⟩
    let events : List Event :=
      [.give (.record (line 1 "info" "disk")), .give (.record (line 2 "error" "disk")),
        .give (.error (.invalidRecord 3 "no level")), .give (.record (line 4 "error" "disk"))]
    let served (expression : Expression) (source : List Event) :=
      (expression.evaluate (ofEvents source)).serve .start [.pull]
    let both := allOf true [isError, isDisk]
    .fire ∉ events ∧
      (served both events).1 = [some (.record (line 2 "error" "disk"))] ∧
      (∃ before after, events = before ++ .give (.record (line 2 "error" "disk")) :: after ∧
        ∀ later, (served both (before ++ .give (.record (line 2 "error" "disk")) :: later)).2 =
          ⟨false, (Event.given before).length + 1, 0⟩) ∧
      (served (allOf true [isError, complement isDisk]) events).2 = ⟨false, 3, 0⟩ := by
  intro line isError isDisk events served both
  have quiet : .fire ∉ events := by simp [events]
  have answered : (served both events).1 = [some (.record (line 2 "error" "disk"))] := by decide
  obtain ⟨streams, -⟩ := serve_evaluate_taken both quiet 0
  obtain ⟨-, gathers⟩ := serve_evaluate_taken (allOf true [isError, complement isDisk]) quiet 0
  refine ⟨quiet, answered, ?_, gathers rfl⟩
  obtain ⟨before, after, split, taken⟩ := streams rfl _ (congrArg (·[0]?) answered)
  exact ⟨before, after, split, fun later => (taken later).2⟩

end Expression

end LogSieve
