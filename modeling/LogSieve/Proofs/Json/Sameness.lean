import LogSieve.Json.Basic

/-! Values that are the same. Values without doubles are the same just when they are equal. -/

namespace LogSieve.Json

mutual

theorem same_iff_eq : ∀ {a : Json}, a.Exact → ∀ {b : Json}, same a b = true ↔ a = b
  | .null, _, b => by cases b <;> simp [same]
  | .bool _, _, b => by cases b <;> simp [same]
  | .integer _, _, b => by cases b <;> simp [same]
  | .double _, exact, _ => exact.elim
  | .string _, _, b => by cases b <;> simp [same]
  | .array _, exact, b => by cases b <;> simp [same, sameItems_iff_eq exact]
  | .object _, exact, b => by cases b <;> simp [same, sameFields_iff_eq exact]

theorem sameItems_iff_eq : ∀ {list : List Json}, ExactItems list → ∀ {other : List Json},
    sameItems list other = true ↔ list = other
  | [], _, other => by cases other <;> simp [sameItems]
  | item :: rest, exact, other => by
    cases other <;> simp [sameItems, same_iff_eq exact.1, sameItems_iff_eq exact.2]

theorem sameFields_iff_eq : ∀ {list : List (String × Json)}, ExactFields list →
    ∀ {other : List (String × Json)}, sameFields list other = true ↔ list = other
  | [], _, other => by cases other <;> simp [sameFields]
  | (name, value) :: rest, exact, other => by
    cases other with
    | nil => simp [sameFields]
    | cons field others =>
      simp [sameFields, same_iff_eq exact.1, sameFields_iff_eq exact.2, Prod.ext_iff]

end

end LogSieve.Json
