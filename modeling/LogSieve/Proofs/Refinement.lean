import LogSieve.Proofs.Requests

/-! Evaluation refines the list semantics: whatever source an expression is run over, the flow that
comes of it yields what the expression leaves of the items of the source. -/

namespace LogSieve

open LogSieve.Flow

namespace Flow.Event

def items : List Event → List Item
  | [] => []
  | give found :: rest => found :: items rest
  | fire :: rest => items rest
  | pause :: _ => []

theorem items_give (found : List Item) : items (found.map give) = found := by
  induction found with
  | nil => rfl
  | cons item rest ih => rw [List.map_cons, items, ih]

end Flow.Event

namespace Flow

theorem yields_behind_answer {signal : Signal} {events : List Event}
    (quiet : signal = .never → .fire ∉ events) :
    Yields signal (guarded.behind (ofEvents.answer events)) (Event.items events) := by
  induction events generalizing signal with
  | nil => rfl
  | cons event rest ih =>
    have quietRest : signal = .never → .fire ∉ rest :=
      fun never member => quiet never (List.mem_cons_of_mem _ member)
    cases event with
    | give found =>
      refine Or.inr ⟨Event.items rest, rfl, fun now became => ?_⟩
      refine yields_checkCancelled fun notGiven => ⟨notGiven, ih ?_⟩
      rintro rfl
      exact quietRest (Signal.eq_never_of_becomes_never became)
    | fire =>
      have possible : signal ≠ .never := fun never => quiet never List.mem_cons_self
      exact ⟨possible, ih nofun⟩
    | pause => rfl

theorem offers_guarded_ofEvents {signal : Signal} {events : List Event}
    (quiet : signal = .never → .fire ∉ events) :
    Offers signal (guarded (ofEvents events)) (Event.items events) := by
  refine fun now became => yields_checkCancelled fun notGiven => ⟨notGiven, ?_⟩
  apply yields_behind_answer
  rintro rfl
  exact quiet (Signal.eq_never_of_becomes_never became)

end Flow

namespace Expression

theorem offers_foldl {signal : Signal} {order : List Expression}
    (each : ∀ part ∈ order, ∀ source items, Offers signal (guarded source) items →
      Offers signal (part.evaluate source) (part.results items))
    {flow : Flow} {items : List Item} (offers : Offers signal flow items) :
    Offers signal (order.foldl (fun flow part => part.evaluate flow) flow)
      (order.foldl (fun items part => part.results items) items) := by
  induction order generalizing flow items with
  | nil => exact offers
  | cons part order ih =>
    refine ih (fun other member => each other (List.mem_cons_of_mem _ member)) ?_
    exact each part List.mem_cons_self flow items (offers_guarded offers)

theorem offers_alternatives {signal : Signal} {parts : List Expression}
    (each : ∀ part ∈ parts, ∀ source items, Offers signal (guarded source) items →
      Offers signal (part.evaluate source) (part.results items))
    (records : List Record) (seen : List RecordKey) :
    Offers signal (alternatives parts (ofRecords records) seen)
      (Item.firsts seen (union parts (records.map .record))) := by
  induction parts generalizing seen with
  | nil => exact offers_ended signal
  | cons part parts ih =>
    have later := ih fun other member => each other (List.mem_cons_of_mem _ member)
    have offers := each part List.mem_cons_self (ofRecords records) _
      (offers_guarded (offers_ofRecords signal records))
    rw [results_ofRecords] at offers
    rw [union, results_ofRecords]
    intro now became
    exact yields_checkCancelled fun _ => yields_fresh later seen became (offers now became)

theorem offers_excluding {signal : Signal} {part : Expression}
    (each : ∀ source items, Offers signal (guarded source) items →
      Offers signal (part.evaluate source) (part.results items))
    (records : List Record) :
    Offers signal
      (keys (fun excluded => remaining excluded records) [] (part.evaluate (ofRecords records)))
      ((records.map Item.record).filter fun item =>
        item.key? ∉ (part.results (records.map .record)).map Item.key?) := by
  have offers := each (ofRecords records) _ (offers_guarded (offers_ofRecords signal records))
  rw [results_ofRecords] at offers
  rw [filter_key?_ofRecords]
  intro now became
  have excluded := yields_keys (fun found => offers_remaining signal found records) [] became
    (offers now became)
  simpa only [List.append_nil, List.mem_reverse] using excluded

/-- Running an expression over a source yields what the list semantics says of its items. -/
theorem offers_evaluate (expression : Expression) {signal : Signal} :
    ∀ source items, Offers signal (guarded source) items →
      Offers signal (expression.evaluate source) (expression.results items) := by
  induction expression using Expression.induction with
  | leaf condition =>
    exact fun source items offers now became => yields_sift condition.accepts (offers now became)
  | allOf planned parts ih =>
    intro source items offers
    rw [evaluate_allOf, results_allOf]
    exact offers_foldl (fun part member => ih part (mem_executionOrder.mp member)) offers
  | anyOf parts ih =>
    intro source items offers
    cases parts with
    | nil => exact offers
    | cons part parts =>
      intro now became
      refine yields_checkCancelled fun _ => ?_
      exact yields_gather_all (fun items => Item.firsts [] (union (part :: parts) items))
        (fun records => offers_alternatives ih records []) became (offers now became)
  | complement part ih =>
    intro source items offers now became
    exact yields_gather_all
      (fun items => items.filter fun item => item.key? ∉ (part.results items).map Item.key?)
      (offers_excluding ih) became (offers now became)

theorem offers_evaluate_ofEvents (expression : Expression) {signal : Signal} {events : List Event}
    (quiet : signal = .never → .fire ∉ events) :
    Offers signal (expression.evaluate (ofEvents events))
      (expression.results (Event.items events)) :=
  offers_evaluate expression _ _ (offers_guarded_ofEvents quiet)

theorem offers_evaluate_give (expression : Expression) (items : List Item) :
    Offers .never (expression.evaluate (ofEvents (items.map .give))) (expression.results items) := by
  have quiet : Signal.never = .never → Event.fire ∉ items.map .give := by simp
  have offers := offers_evaluate_ofEvents expression quiet
  rwa [Event.items_give] at offers

/-- Where nobody gives the signal, the flow of an expression is the list that the semantics says:
draining gives the list, and single pulls meet its items one after the other and then nothing. -/
theorem evaluate_results (expression : Expression) (items : List Item) :
    let flow := expression.evaluate (ofEvents (items.map .give))
    let found := expression.results items
    flow.items = found ∧
      (flow.serve .start (List.replicate (found.length + 1) .pull)).1 =
        found.map some ++ [none] := by
  intro flow found
  have offers := offers_evaluate_give expression items
  exact ⟨drain_yields offers.yields rfl, serve_yields offers.yields rfl⟩

end Expression

end LogSieve
