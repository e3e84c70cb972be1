import LogSieve.Proofs.Stages
import Mathlib.Data.List.TakeDrop

/-! What happens when somebody pulls a flow. One pull of a flow that yields some items meets the
first of them, or nothing when there is none, or the error of a cancellation. From this follows what
a whole run of requests meets, pulls and signals in any order. -/

namespace LogSieve

inductive Request where
  | pull
  | fire
  deriving DecidableEq, Repr

namespace Flow

def serve : Flow → Tally → List Request → List (Option Item) × Tally
  | _, tally, [] => ([], tally)
  | flow, tally, .fire :: rest => serve flow tally.fire rest
  | flow, tally, .pull :: rest =>
    let pulled := flow.pull tally
    let served := serve pulled.rest pulled.tally rest
    (pulled.item :: served.1, served.2)

/-- How a pull is answered when these items are to come. -/
inductive Answers (now : Signal) (pulled : Pulled) : List Item → Prop
  | nothing (answer : pulled.item = none) : Answers now pulled []
  | cancelled (items : List Item) (fired : now = .given)
      (answer : pulled.item = some (.error .cancelled)) : Answers now pulled items
  | found (item : Item) (later : List Item) (answer : pulled.item = some item)
      (offers : Offers now pulled.rest later) : Answers now pulled (item :: later)

structure Meets (signal : Signal) (tally : Tally) (pulled : Pulled) (items : List Item)
    (now : Signal) : Prop where
  became : signal.Becomes now
  fired : pulled.tally.fired = now.isGiven
  late : pulled.tally.late = tally.late
  answers : Answers now pulled items

theorem Meets.before {signal later : Signal} {tally noted : Tally} {pulled : Pulled}
    {items : List Item} {now : Signal} (meets : Meets later noted pulled items now)
    (became : signal.Becomes later) (late : noted.late = tally.late) :
    Meets signal tally pulled items now :=
  ⟨became.trans meets.became, meets.fired, meets.late.trans late, meets.answers⟩

theorem pull_yields {signal : Signal} {flow : Flow} {items : List Item} (tally : Tally)
    (yields : Yields signal flow items) (known : tally.fired = signal.isGiven) :
    ∃ now, Meets signal tally (flow.pull tally) items now := by
  have refl := Signal.Becomes.refl signal
  induction flow generalizing signal tally items with
  | ended | pause =>
    obtain rfl : items = [] := yields
    exact ⟨signal, refl, known, rfl, Answers.nothing rfl⟩
  | idle woken ih =>
    rw [Yields] at yields
    rw [pull, known]
    split at yields
    · next isGiven =>
      rw [if_pos isGiven]
      exact ih tally yields known refl
    · next isGiven =>
      obtain rfl := yields
      rw [if_neg isGiven]
      exact ⟨signal, refl, known, rfl, Answers.nothing rfl⟩
  | item found rest =>
    rcases yields_item.mp yields with ⟨rfl, rfl⟩ | ⟨later, rfl, offers⟩
    · exact ⟨.given, refl, known, rfl, Answers.cancelled items rfl rfl⟩
    · exact ⟨signal, refl, known, rfl, Answers.found found later rfl offers⟩
  | mark event rest ih =>
    rw [pull]
    cases event with
    | ask =>
      obtain ⟨notGiven, yields⟩ := yields
      have unfired : tally.fired = false := by
        rw [known, Bool.eq_false_iff]
        exact fun isGiven => notGiven (Signal.isGiven_iff.mp isGiven)
      obtain ⟨now, meets⟩ := ih (tally.note .ask) yields known refl
      exact ⟨now, meets.before refl (by simp [Tally.note, unfired])⟩
    | take =>
      obtain ⟨now, meets⟩ := ih (tally.note .take) yields known refl
      exact ⟨now, meets.before refl rfl⟩
    | fire =>
      obtain ⟨possible, yields⟩ := yields
      obtain ⟨now, meets⟩ := ih (tally.note .fire) yields rfl (Signal.Becomes.refl .given)
      exact ⟨now, meets.before (Signal.becomes_given possible) rfl⟩
  | check given notGiven ihGiven ih =>
    rw [Yields] at yields
    rw [pull, known]
    split at yields
    · next isGiven =>
      rw [if_pos isGiven]
      exact ihGiven tally yields known refl
    · next isGiven =>
      rw [if_neg isGiven]
      exact ih tally yields known refl

theorem pull_untilError (flow : Flow) (tally : Tally) :
    (untilError flow).pull tally =
      { flow.pull tally with
        rest := match (flow.pull tally).item with
          | some (.record _) => untilError (flow.pull tally).rest
          | _ => ended } := by
  induction flow generalizing tally with
  | ended | pause => rfl
  | idle woken ih =>
    rw [untilError, pull, pull]
    split
    · exact ih tally
    · rfl
  | item found rest =>
    cases found with
    | record record => rfl
    | error error => rfl
  | mark event rest ih => exact ih (tally.note event)
  | check given notGiven ihGiven ih =>
    rw [untilError, pull, pull]
    split
    · exact ihGiven tally
    · exact ih tally

theorem drain_eq (flow : Flow) (tally : Tally) :
    (flow.drain tally).1 =
      match (flow.pull tally).item with
      | none => []
      | some found =>
        found :: ((flow.pull tally).rest.drain (flow.pull tally).tally).1 := by
  induction flow generalizing tally with
  | ended | pause => rfl
  | idle woken ih =>
    rw [drain, pull]
    split
    · exact ih tally
    · rfl
  | item found rest => rfl
  | mark event rest ih => exact ih (tally.note event)
  | check given notGiven ihGiven ih =>
    rw [drain, pull]
    split
    · exact ihGiven tally
    · exact ih tally

theorem pull_yields_never {flow : Flow} {tally : Tally} {items : List Item}
    (yields : Yields .never flow items) (unfired : tally.fired = false) :
    match items with
    | [] => (flow.pull tally).item = none
    | first :: later =>
      (flow.pull tally).item = some first ∧ (flow.pull tally).tally.fired = false ∧
        Yields .never (flow.pull tally).rest later := by
  obtain ⟨now, meets⟩ := pull_yields tally yields unfired
  obtain rfl := Signal.eq_never_of_becomes meets.became
  cases meets.answers with
  | nothing answer => exact answer
  | cancelled _ fired _ => cases fired
  | found _ _ answer offers => exact ⟨answer, meets.fired, offers.yields⟩

theorem drain_yields {flow : Flow} {tally : Tally} {items : List Item}
    (yields : Yields .never flow items) (unfired : tally.fired = false) :
    (flow.drain tally).1 = items := by
  induction items generalizing flow tally with
  | nil => rw [drain_eq, pull_yields_never yields unfired]
  | cons first later ih =>
    obtain ⟨answer, unfired, yields⟩ := pull_yields_never yields unfired
    rw [drain_eq, answer, ih yields unfired]

theorem serve_yields {flow : Flow} {tally : Tally} {items : List Item}
    (yields : Yields .never flow items) (unfired : tally.fired = false) :
    (flow.serve tally (List.replicate (items.length + 1) .pull)).1 = items.map some ++ [none] := by
  induction items generalizing flow tally with
  | nil => exact congrArg (fun answer => [answer]) (pull_yields_never yields unfired)
  | cons first later ih =>
    obtain ⟨answer, unfired, yields⟩ := pull_yields_never yields unfired
    rw [List.length_cons, List.replicate_succ, serve, answer, ih yields unfired]
    rfl

/-! Runs of a flow that ends with its first error -/

/-- The end of the list is missing, and the error of a cancellation stands in its place. -/
def CutOff (whole cut : List Item) : Prop :=
  ∃ kept : List Record, kept.map .record <+: whole ∧
    cut = kept.map .record ++ [.error .cancelled]

theorem cutOff_start (whole : List Item) : CutOff whole [.error .cancelled] :=
  ⟨[], List.nil_prefix, rfl⟩

theorem CutOff.cons {whole cut : List Item} (cutOff : CutOff whole cut) (record : Record) :
    CutOff (.record record :: whole) (.record record :: cut) := by
  obtain ⟨kept, isPrefix, rfl⟩ := cutOff
  exact ⟨record :: kept, List.cons_prefix_cons.mpr ⟨rfl, isPrefix⟩, rfl⟩

/-- What comes of requests when the whole of these items is to come: the pulls meet a list from its
start and then nothing. The list is the whole, unless the signal cut it off. -/
structure Outcome (signal : Signal) (tally : Tally) (requests : List Request) (whole : List Item)
    (served : List (Option Item) × Tally) (now : Signal) (met : List Item) : Prop where
  became : signal.Becomes now
  fired : served.2.fired = now.isGiven
  late : served.2.late = tally.late
  answers : served.1 = (met.map some).takeD (requests.count .pull) none
  met : met = whole ∨ now = .given ∧ CutOff whole met

section Outcome

variable {signal later now : Signal} {tally noted : Tally} {requests : List Request}
  {whole all met : List Item} {first : Item} {served : List (Option Item) × Tally}

theorem Outcome.found (outcome : Outcome later noted requests whole served now met)
    (became : signal.Becomes later) (late : noted.late = tally.late)
    (extended : first :: met = all ∨ now = .given ∧ CutOff all (first :: met)) :
    Outcome signal tally (.pull :: requests) all (some first :: served.1, served.2) now
      (first :: met) where
  became := became.trans outcome.became
  fired := outcome.fired
  late := outcome.late.trans late
  answers := by
    rw [List.count_cons_self, List.map_cons, List.takeD_succ]
    exact congrArg (List.cons (some first)) outcome.answers
  met := extended

theorem Outcome.nothing (outcome : Outcome later noted requests whole served now [])
    (became : signal.Becomes later) (late : noted.late = tally.late) :
    Outcome signal tally (.pull :: requests) whole (none :: served.1, served.2) now [] where
  became := became.trans outcome.became
  fired := outcome.fired
  late := outcome.late.trans late
  answers := by
    rw [List.count_cons_self, List.map_nil, List.takeD_succ]
    exact congrArg (List.cons none) outcome.answers
  met := outcome.met

theorem Outcome.fire (outcome : Outcome .given tally.fire requests whole served now met)
    (possible : signal ≠ .never) :
    Outcome signal tally (.fire :: requests) whole served now met where
  became := (Signal.becomes_given possible).trans outcome.became
  fired := outcome.fired
  late := outcome.late
  answers := outcome.answers
  met := outcome.met

theorem serve_ended (known : tally.fired = signal.isGiven)
    (quiet : signal = .never → .fire ∉ requests) :
    ∃ now, Outcome signal tally requests [] (serve ended tally requests) now [] := by
  induction requests generalizing signal tally with
  | nil => exact ⟨signal, Signal.Becomes.refl signal, known, rfl, rfl, Or.inl rfl⟩
  | cons request rest ih =>
    have quietRest : signal = .never → .fire ∉ rest :=
      fun never member => quiet never (List.mem_cons_of_mem _ member)
    cases request with
    | pull =>
      obtain ⟨now, outcome⟩ := ih known quietRest
      exact ⟨now, outcome.nothing (Signal.Becomes.refl signal) rfl⟩
    | fire =>
      have given : tally.fire.fired = Signal.isGiven .given := rfl
      obtain ⟨now, outcome⟩ := ih given nofun
      exact ⟨now, outcome.fire fun never => quiet never List.mem_cons_self⟩

theorem serve_untilError {flow : Flow} {items : List Item} (offers : Offers signal flow items)
    (known : tally.fired = signal.isGiven) (quiet : signal = .never → .fire ∉ requests) :
    ∃ now met, Outcome signal tally requests (Item.upToError items)
      ((untilError flow).serve tally requests) now met := by
  induction requests generalizing signal tally flow items with
  | nil =>
    exact ⟨signal, _, Signal.Becomes.refl signal, known, rfl, rfl, Or.inl rfl⟩
  | cons request rest ih =>
    have quietRest : signal = .never → .fire ∉ rest :=
      fun never member => quiet never (List.mem_cons_of_mem _ member)
    cases request with
    | fire =>
      have given : tally.fire.fired = Signal.isGiven .given := rfl
      have possible : signal ≠ .never := fun never => quiet never List.mem_cons_self
      obtain ⟨now, met, outcome⟩ := ih (offers.later (Signal.becomes_given possible)) given nofun
      exact ⟨now, met, outcome.fire possible⟩
    | pull =>
      obtain ⟨after, meets⟩ := pull_yields tally offers.yields known
      have quietAfter : after = .never → .fire ∉ rest := by
        rintro rfl
        exact quietRest (Signal.eq_never_of_becomes_never meets.became)
      rw [serve, pull_untilError]
      cases meets.answers with
      | nothing answer =>
        obtain ⟨now, outcome⟩ := serve_ended meets.fired quietAfter
        rw [answer]
        exact ⟨now, [], outcome.nothing meets.became meets.late⟩
      | cancelled items fired answer =>
        obtain ⟨now, outcome⟩ := serve_ended meets.fired quietAfter
        rw [answer]
        have stillGiven : now = .given := Signal.eq_given_of_becomes (fired ▸ outcome.became)
        exact ⟨now, _, outcome.found meets.became meets.late
          (Or.inr ⟨stillGiven, cutOff_start _⟩)⟩
      | found found later answer offersRest =>
        cases found with
        | error error =>
          obtain ⟨now, outcome⟩ := serve_ended meets.fired quietAfter
          rw [answer]
          exact ⟨now, _, outcome.found meets.became meets.late (Or.inl rfl)⟩
        | record record =>
          obtain ⟨now, met, outcome⟩ := ih offersRest meets.fired quietAfter
          rw [answer]
          refine ⟨now, _, outcome.found meets.became meets.late ?_⟩
          rcases outcome.met with rfl | ⟨given, cutOff⟩
          · exact Or.inl rfl
          · exact Or.inr ⟨given, cutOff.cons record⟩

end Outcome

theorem serve_pulls_untilError {flow : Flow} {items : List Item}
    (offers : Offers .never flow items) (pulls : Nat) :
    ((untilError flow).serve .start (List.replicate pulls .pull)).1 =
      ((Item.upToError items).map some).takeD pulls none := by
  have unfired : Tally.start.fired = Signal.isGiven .never := rfl
  have quiet : Signal.never = .never → Request.fire ∉ List.replicate pulls .pull := by
    simp [List.mem_replicate]
  obtain ⟨now, met, outcome⟩ := serve_untilError offers unfired quiet
  obtain rfl := Signal.eq_never_of_becomes outcome.became
  rcases outcome.met with rfl | ⟨given, -⟩
  · rw [outcome.answers, List.count_replicate_self]
  · cases given

end Flow

end LogSieve
