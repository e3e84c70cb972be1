import LogSieve.Proofs.Refinement

/-! Cancellation only cuts off. The signal can be given between two pulls or during a pull of the
source, and whatever comes before it in the output is what comes without it. -/

namespace LogSieve

open LogSieve.Flow

namespace Flow.Event

/-- The source that gives the same and never the signal. -/
def quiet : List Event → List Event
  | [] => []
  | fire :: rest => quiet rest
  | event :: rest => event :: quiet rest

theorem items_quiet (events : List Event) : items (quiet events) = items events := by
  induction events with
  | nil => rfl
  | cons event rest ih =>
    cases event with
    | give found => exact congrArg (List.cons found) ih
    | fire => exact ih
    | pause => rfl

theorem fire_notMem_quiet (events : List Event) : fire ∉ quiet events := by
  induction events with
  | nil => exact List.not_mem_nil
  | cons event rest ih =>
    cases event with
    | give _ | pause => exact List.not_mem_cons_of_ne_of_not_mem nofun ih
    | fire => exact ih

end Flow.Event

namespace Expression

/-- Whatever is pulled and whenever the signal is given, the pulls meet the items of the same call
without a signal, or some of them and then one error; after that they meet nothing. The source is
not pulled any more once the signal has been given. -/
theorem apply_whole_or_cutOff (expression : Expression) (events : List Event)
    (requests : List Request) :
    let whole := (expression.apply (ofEvents (Event.quiet events))).items
    let served := (expression.apply (ofEvents events)).serve .start requests
    served.2.late = 0 ∧ ∃ met : List Item,
      served.1 = (met.map some).takeD (requests.count .pull) none ∧
        (met = whole ∨ served.2.fired = true ∧ CutOff whole met) := by
  intro whole served
  have quiet : Signal.never = .never → Event.fire ∉ Event.quiet events :=
    fun _ => Event.fire_notMem_quiet events
  have undisturbed := offers_evaluate_ofEvents expression quiet
  have wholeItems : whole = Item.upToError (expression.results (Event.items events)) := by
    rw [← Event.items_quiet events]
    exact drain_yields (yields_untilError undisturbed.yields) rfl
  have possible : Signal.awaited = .never → Event.fire ∉ events := nofun
  have offers := offers_evaluate_ofEvents expression possible
  obtain ⟨now, met, outcome⟩ : ∃ now met, Outcome .awaited .start requests _ served now met :=
    serve_untilError offers rfl nofun
  refine ⟨outcome.late, met, outcome.answers, ?_⟩
  rw [wholeItems]
  rcases outcome.met with same | ⟨rfl, cutOff⟩
  · exact Or.inl same
  · exact Or.inr ⟨outcome.fired, cutOff⟩

end Expression

end LogSieve
