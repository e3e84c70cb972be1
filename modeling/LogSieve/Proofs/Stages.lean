import LogSieve.Proofs.Yield

/-! What the stages of an evaluation yield. A guard cuts the items of a flow off when the signal is
given; the other stages yield what a function on lists makes of the items of the flow that they
pull. Every stage passes the error of a cancellation on. -/

namespace LogSieve.Flow

variable {signal start : Signal} {flow : Flow} {items : List Item}

theorem offers_ofRecords (signal : Signal) (records : List Record) :
    Offers signal (ofRecords records) (records.map .record) := by
  induction records generalizing signal with
  | nil => exact offers_ended signal
  | cons record rest ih => exact fun now _ => Or.inr ⟨rest.map .record, rfl, ih now⟩

/-! The guard -/

theorem yields_lastAnswer (yields : Yields .given flow items) :
    Yields .given (lastAnswer flow) items := by
  induction flow generalizing items with
  | ended => exact yields
  | pause rest => exact yields
  | idle woken ih => exact ih yields
  | item found rest ih =>
    rcases yields_item.mp yields with cancelled | ⟨later, rfl, -⟩
    · exact Or.inl cancelled
    · refine Or.inr ⟨later, rfl, fun now became => ?_⟩
      rw [Signal.eq_given_of_becomes became]
      exact yields_cancelled later
  | mark event rest ih =>
    refine yields.throughMark fun now became rested => ?_
    obtain rfl := Signal.eq_given_of_becomes became
    exact ih rested
  | check given notGiven ihGiven => exact ihGiven yields

theorem yields_behind (yields : Yields signal flow items) :
    Yields signal (guarded.behind flow) items := by
  induction flow generalizing signal items with
  | ended => exact yields
  | pause rest => exact yields
  | idle woken =>
    exact yields.throughIdle (fun _ => yields_lastAnswer) id
  | item found rest ih =>
    rcases yields_item.mp yields with cancelled | ⟨later, rfl, offers⟩
    · exact Or.inl cancelled
    · refine Or.inr ⟨later, rfl, fun now became => ?_⟩
      exact yields_checkCancelled fun _ => ih (offers now became)
  | mark event rest ih => exact yields.throughMark fun now _ => ih
  | check given notGiven _ ih => exact yields.throughCheck (fun _ => yields_lastAnswer) ih

theorem offers_guarded (offers : Offers signal flow items) : Offers signal (guarded flow) items :=
  fun now became => yields_checkCancelled fun _ => yields_behind (offers now became)

/-! The other stages -/

theorem yields_sift (accepts : Record → Bool) (yields : Yields signal flow items) :
    Yields signal (sift accepts flow) (items.filter (Item.passes accepts)) := by
  induction flow generalizing signal items with
  | ended | pause =>
    obtain rfl : items = [] := yields
    rfl
  | idle woken ih =>
    have checked : Yields signal (check (sift accepts woken) ended)
        (items.filter (Item.passes accepts)) := by
      refine yields.throughIdle (fun _ => ih) ?_
      rintro rfl
      rfl
    exact checked
  | item found rest ih =>
    rcases yields_item.mp yields with ⟨rfl, rfl⟩ | ⟨later, rfl, offers⟩
    · exact Or.inl ⟨rfl, rfl⟩
    · have offersRest : Offers signal (sift accepts rest) (later.filter (Item.passes accepts)) :=
        fun now became => ih (offers now became)
      cases found with
      | error error =>
        rw [List.filter_cons_of_pos rfl]
        exact Or.inr ⟨_, rfl, offersRest⟩
      | record record =>
        by_cases accepted : accepts record
        · rw [sift, if_pos accepted, List.filter_cons_of_pos (by exact accepted)]
          exact Or.inr ⟨_, rfl, offersRest⟩
        · rw [sift, if_neg accepted, List.filter_cons_of_neg (by exact accepted)]
          exact offersRest.yields
  | mark event rest ih => exact yields.throughMark fun now _ => ih
  | check given notGiven ihGiven ih => exact yields.throughCheck (fun _ => ihGiven) ih

theorem yields_untilError (yields : Yields signal flow items) :
    Yields signal (untilError flow) (Item.upToError items) := by
  induction flow generalizing signal items with
  | ended | pause =>
    obtain rfl : items = [] := yields
    rfl
  | idle woken ih =>
    refine yields.throughIdle (fun _ => ih) ?_
    rintro rfl
    rfl
  | item found rest ih =>
    rcases yields_item.mp yields with ⟨rfl, rfl⟩ | ⟨later, rfl, offers⟩
    · exact Or.inl ⟨rfl, rfl⟩
    · cases found with
      | error error => exact (offers_fail signal error).yields
      | record record => exact Or.inr ⟨_, rfl, fun now became => ih (offers now became)⟩
  | mark event rest ih => exact yields.throughMark fun now _ => ih
  | check given notGiven ihGiven ih => exact yields.throughCheck (fun _ => ihGiven) ih

/-- A stage that takes everything yields what comes of the records it has taken, or the first error
and nothing else. -/
theorem yields_gather {use : List Record → Flow} {outcome : List Record → List Item}
    (offers : ∀ records, Offers start (use records) (outcome records)) (taken : List Record)
    (became : start.Becomes signal) (yields : Yields signal flow items) :
    Yields signal (gather use taken flow)
      (match Item.firstError? items with
        | some error => [.error error]
        | none => outcome (taken.reverse ++ Item.leading items)) := by
  induction flow generalizing signal items taken with
  | ended | pause =>
    obtain rfl : items = [] := yields
    rw [Item.firstError?, Item.leading, List.append_nil]
    exact offers taken.reverse signal became
  | idle woken ih =>
    refine yields.throughIdle (fun after => ih taken (became.trans after)) ?_
    rintro rfl
    rw [Item.firstError?, Item.leading, List.append_nil]
    exact offers taken.reverse signal became
  | item found rest ih =>
    rcases yields_item.mp yields with ⟨rfl, rfl⟩ | ⟨later, rfl, offersRest⟩
    · exact yields_checkCancelled fun notYet => absurd rfl notYet
    · cases found with
      | error error => exact yields_checkCancelled fun _ => (offers_fail signal error).yields
      | record record =>
        refine yields_checkCancelled fun _ => ?_
        simpa only [Item.firstError?, Item.leading, List.reverse_cons, List.append_assoc,
          List.singleton_append] using ih (record :: taken) became offersRest.yields
  | mark event rest ih => exact yields.throughMark fun now after => ih taken (became.trans after)
  | check given notGiven ihGiven ih =>
    exact yields.throughCheck (fun after => ihGiven taken (became.trans after)) (ih taken became)

theorem yields_gather_all {use : List Record → Flow} (outcome : List Item → List Item)
    (offers : ∀ records, Offers start (use records) (outcome (records.map .record)))
    (became : start.Becomes signal) (yields : Yields signal flow items) :
    Yields signal (gather use [] flow)
      (match Item.firstError? items with
        | some error => [.error error]
        | none => outcome items) := by
  have gathered := yields_gather offers [] became yields
  cases first : Item.firstError? items with
  | some error => simpa only [first] using gathered
  | none =>
    simpa only [first, List.reverse_nil, List.nil_append,
      ← Item.eq_ofRecords_of_firstError? first] using gathered

theorem yields_fresh {next : List RecordKey → Flow} {others : List Item} {records : List Record}
    (offers : ∀ seen, Offers start (next seen) (Item.firsts seen others)) (seen : List RecordKey)
    (became : start.Becomes signal) (yields : Yields signal flow (records.map .record)) :
    Yields signal (fresh next seen flow) (Item.firsts seen (records.map .record ++ others)) := by
  induction flow generalizing signal records seen with
  | ended | pause =>
    rw [show records.map Item.record = [] from yields]
    exact offers seen signal became
  | idle woken ih =>
    refine yields.throughIdle (fun after => ih seen (became.trans after)) fun nothing => ?_
    rw [nothing]
    exact offers seen signal became
  | item found rest ih =>
    rcases yields_item.mp yields with ⟨rfl, rfl⟩ | ⟨later, split, offersRest⟩
    · exact Or.inl ⟨rfl, rfl⟩
    · obtain ⟨record, remaining, rfl, rfl, rfl⟩ := List.map_eq_cons_iff.mp split
      rw [List.map_cons, List.cons_append, Item.firsts, fresh]
      split
      · exact yields_checkCancelled fun _ => ih seen became offersRest.yields
      · refine Or.inr ⟨_, rfl, fun now after => yields_checkCancelled fun _ => ?_⟩
        exact ih (record.key :: seen) (became.trans after) (offersRest now after)
  | mark event rest ih => exact yields.throughMark fun now after => ih seen (became.trans after)
  | check given notGiven ihGiven ih =>
    exact yields.throughCheck (fun after => ihGiven seen (became.trans after)) (ih seen became)

theorem yields_keys {use : List RecordKey → Flow} {outcome : List RecordKey → List Item}
    {records : List Record} (offers : ∀ keys, Offers start (use keys) (outcome keys))
    (found : List RecordKey) (became : start.Becomes signal)
    (yields : Yields signal flow (records.map .record)) :
    Yields signal (keys use found flow) (outcome ((records.map Record.key).reverse ++ found)) := by
  induction flow generalizing signal records found with
  | ended | pause =>
    rw [List.map_eq_nil_iff.mp yields]
    exact offers found signal became
  | idle woken ih =>
    refine yields.throughIdle (fun after => ih found (became.trans after)) fun nothing => ?_
    rw [List.map_eq_nil_iff.mp nothing]
    exact offers found signal became
  | item met rest ih =>
    rcases yields_item.mp yields with ⟨rfl, rfl⟩ | ⟨later, split, offersRest⟩
    · exact Or.inl ⟨rfl, rfl⟩
    · obtain ⟨record, remaining, rfl, rfl, rfl⟩ := List.map_eq_cons_iff.mp split
      rw [keys, List.map_cons, List.reverse_cons, List.append_assoc]
      exact ih (record.key :: found) became offersRest.yields
  | mark event rest ih => exact yields.throughMark fun now after => ih found (became.trans after)
  | check given notGiven ihGiven ih =>
    exact yields.throughCheck (fun after => ihGiven found (became.trans after)) (ih found became)

theorem offers_remaining (signal : Signal) (excluded : List RecordKey) (records : List Record) :
    Offers signal (remaining excluded records)
      ((records.filter fun record => record.key ∉ excluded).map .record) := by
  induction records generalizing signal with
  | nil => exact fun now _ => yields_checkCancelled fun _ => rfl
  | cons record rest ih =>
    refine fun now became => yields_checkCancelled fun _ => ?_
    by_cases known : record.key ∈ excluded
    · rw [if_pos known, List.filter_cons_of_neg (by simpa using known)]
      exact ih signal now became
    · rw [if_neg known, List.filter_cons_of_pos (by simpa using known)]
      exact Or.inr ⟨_, rfl, ih now⟩

end LogSieve.Flow
