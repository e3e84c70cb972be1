import LogSieve.Proofs.Listing

/-! What a flow yields. A flow yields a list of items when whoever pulls meets these items one after
the other and then nothing, or meets some of them and then the error of a cancellation. The error
comes only when the signal has been given, and no pull of the source begins after that. -/

namespace LogSieve

/-- What is known about the signal: it is never given, or it can be given at any time, or it has
been given. -/
inductive Signal where
  | never
  | awaited
  | given
  deriving DecidableEq, Repr

namespace Signal

def isGiven : Signal → Bool
  | given => true
  | _ => false

def Becomes (signal later : Signal) : Prop := later = signal ∨ signal = awaited ∧ later = given

theorem Becomes.refl (signal : Signal) : signal.Becomes signal := Or.inl rfl

theorem Becomes.trans {first second third : Signal} (before : first.Becomes second)
    (after : second.Becomes third) : first.Becomes third := by
  rcases before with rfl | ⟨rfl, rfl⟩
  · exact after
  · rcases after with rfl | ⟨impossible, -⟩
    · exact Or.inr ⟨rfl, rfl⟩
    · cases impossible

theorem becomes_given {signal : Signal} (possible : signal ≠ never) : signal.Becomes given := by
  cases signal with
  | never => contradiction
  | awaited => exact Or.inr ⟨rfl, rfl⟩
  | given => exact Becomes.refl given

theorem eq_never_of_becomes {later : Signal} (became : never.Becomes later) : later = never := by
  rcases became with same | ⟨impossible, -⟩
  · exact same
  · cases impossible

theorem eq_never_of_becomes_never {signal : Signal} (became : signal.Becomes never) :
    signal = never := by
  rcases became with rfl | ⟨-, impossible⟩
  · rfl
  · cases impossible

theorem eq_given_of_becomes {later : Signal} (became : given.Becomes later) : later = given := by
  rcases became with same | ⟨impossible, -⟩
  · exact same
  · cases impossible

theorem isGiven_iff {signal : Signal} : signal.isGiven = true ↔ signal = given := by
  cases signal <;> simp [isGiven]

end Signal

namespace Flow

/-- A pull that stands here meets the first of these items, and later pulls meet the rest. -/
def Yields : Signal → Flow → List Item → Prop
  | _, ended, items => items = []
  | _, pause _, items => items = []
  | signal, idle woken, items => if signal.isGiven then Yields signal woken items else items = []
  | signal, item found rest, items =>
    (signal = .given ∧ found = .error .cancelled) ∨
      ∃ later, items = found :: later ∧ ∀ now, signal.Becomes now → Yields now rest later
  | signal, mark .ask rest, items => signal ≠ .given ∧ Yields signal rest items
  | signal, mark .take rest, items => Yields signal rest items
  | signal, mark .fire rest, items => signal ≠ .never ∧ Yields .given rest items
  | signal, check given notGiven, items =>
    if signal.isGiven then Yields signal given items else Yields signal notGiven items

/-- No pull has begun, so the signal can be given before the next one does. -/
def Offers (signal : Signal) (flow : Flow) (items : List Item) : Prop :=
  ∀ now, signal.Becomes now → Yields now flow items

variable {signal start : Signal} {flow given notGiven : Flow} {items : List Item}

theorem Offers.yields (offers : Offers signal flow items) : Yields signal flow items :=
  offers signal (Signal.Becomes.refl signal)

theorem Offers.later {now : Signal} (offers : Offers signal flow items)
    (became : signal.Becomes now) : Offers now flow items :=
  fun _ after => offers _ (became.trans after)

theorem yields_cancelled (items : List Item) : Yields .given cancelled items :=
  Or.inl ⟨rfl, rfl⟩

theorem offers_ended (signal : Signal) : Offers signal ended [] := fun _ _ => rfl

theorem offers_fail (signal : Signal) (error : FilterError) :
    Offers signal (fail error) [.error error] :=
  fun now _ => Or.inr ⟨[], rfl, offers_ended now⟩

theorem yields_item {found : Item} {rest : Flow} :
    Yields signal (item found rest) items ↔
      (signal = .given ∧ found = .error .cancelled) ∨
        ∃ later, items = found :: later ∧ Offers signal rest later := Iff.rfl

theorem yields_check (whenGiven : signal = .given → Yields .given given items)
    (otherwise : signal ≠ .given → Yields signal notGiven items) :
    Yields signal (check given notGiven) items := by
  rw [Yields]
  split
  · next isGiven =>
    obtain rfl := Signal.isGiven_iff.mp isGiven
    exact whenGiven rfl
  · next isGiven =>
    exact otherwise fun same => isGiven (Signal.isGiven_iff.mpr same)

theorem yields_checkCancelled (otherwise : signal ≠ .given → Yields signal flow items) :
    Yields signal (check cancelled flow) items :=
  yields_check (fun _ => yields_cancelled items) otherwise

/-! A stage goes through looks at the signal and events at the source without changing them. The
next three laws say so for what comes after them. -/

section Passing

variable {woken rest changed changedGiven changedNotGiven : Flow} {others : List Item}

theorem Yields.throughCheck (yields : Yields signal (check given notGiven) items)
    (whenGiven : signal.Becomes .given → Yields .given given items →
      Yields .given changedGiven others)
    (otherwise : Yields signal notGiven items → Yields signal changedNotGiven others) :
    Yields signal (check changedGiven changedNotGiven) others := by
  rw [Yields] at yields
  apply yields_check
  · rintro rfl
    exact whenGiven (Signal.Becomes.refl .given) yields
  · intro notYet
    rw [if_neg fun isGiven => notYet (Signal.isGiven_iff.mp isGiven)] at yields
    exact otherwise yields

theorem Yields.throughIdle (yields : Yields signal (idle woken) items)
    (whenGiven : signal.Becomes .given → Yields .given woken items →
      Yields .given changedGiven others)
    (otherwise : items = [] → Yields signal changedNotGiven others) :
    Yields signal (check changedGiven changedNotGiven) others := by
  have same : Yields signal (check woken ended) items := yields
  exact same.throughCheck whenGiven otherwise

theorem Yields.throughMark {event : Mark} (yields : Yields signal (mark event rest) items)
    (after : ∀ now, signal.Becomes now → Yields now rest items → Yields now changed others) :
    Yields signal (mark event changed) others := by
  cases event with
  | ask =>
    obtain ⟨notYet, yields⟩ := yields
    exact ⟨notYet, after signal (Signal.Becomes.refl signal) yields⟩
  | take => exact after signal (Signal.Becomes.refl signal) yields
  | fire =>
    obtain ⟨possible, yields⟩ := yields
    exact ⟨possible, after .given (Signal.becomes_given possible) yields⟩

end Passing

end Flow

end LogSieve
