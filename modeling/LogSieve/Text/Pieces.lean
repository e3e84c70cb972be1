/-! A text in pieces. -/

namespace LogSieve.Text

/-- The pieces between marks; there is one more piece than there are marks. -/
def pieces (mark : Char) : List Char → List (List Char)
  | [] => [[]]
  | c :: rest =>
    if c = mark then [] :: pieces mark rest
    else match pieces mark rest with
      | [] => [[c]]
      | piece :: others => (c :: piece) :: others

theorem pieces_ne_nil (mark : Char) (text : List Char) : pieces mark text ≠ [] := by
  cases text with
  | nil => simp [pieces]
  | cons c rest =>
    simp only [pieces]
    split
    · simp
    · split <;> simp

theorem pieces_of_not_mem (mark : Char) (text : List Char) (h : mark ∉ text) :
    pieces mark text = [text] := by
  induction text with
  | nil => rfl
  | cons c rest ih =>
    have hc : c ≠ mark := fun he => h (he ▸ List.mem_cons_self)
    have hr : mark ∉ rest := fun hm => h (List.mem_cons_of_mem c hm)
    simp [pieces, hc, ih hr]

end LogSieve.Text
