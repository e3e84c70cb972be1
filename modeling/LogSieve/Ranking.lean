/-! Sorting by a number: what has the same number keeps its order. -/

namespace LogSieve.Ranking

variable {α β : Type}

/-- Put an item in front of the first one whose number is not smaller. -/
def place (key : α → Nat) (item : α) : List α → List α
  | [] => [item]
  | next :: rest =>
    if key item ≤ key next then item :: next :: rest else next :: place key item rest

def ranked (key : α → Nat) (items : List α) : List α := items.foldr (place key) []

theorem place_map (key : β → Nat) (f : α → β) (item : α) (items : List α) :
    place key (f item) (items.map f) = (place (fun a => key (f a)) item items).map f := by
  induction items with
  | nil => rfl
  | cons next rest ih =>
    by_cases h : key (f item) ≤ key (f next)
    · simp [place, h]
    · simp [place, h, ih]

theorem ranked_map (key : β → Nat) (f : α → β) (items : List α) :
    ranked key (items.map f) = (ranked (fun a => key (f a)) items).map f := by
  induction items with
  | nil => rfl
  | cons item rest ih =>
    show place key (f item) (ranked key (rest.map f)) = _
    rw [ih, place_map]
    rfl

end LogSieve.Ranking
