import Mathlib.Tactic.SplitIfs
import LogSieve.Text.Utf8

/-! Texts and their octets are in the same order: the octets of a greater character are greater, and
the first octets that differ belong to the first characters that do. -/

namespace LogSieve.Text

theorem octets_eq_flatMap (text : String) :
    octets text = text.toList.flatMap String.utf8EncodeChar := by
  rw [octets, String.toUTF8_eq_toByteArray, ← String.utf8Encode_toList]
  simp [List.utf8Encode]

theorem utf8EncodeChar_lt {c d : Char} (before : c < d) (front back : Octets) :
    String.utf8EncodeChar c ++ front < String.utf8EncodeChar d ++ back := by
  have order : c.val.toNat < d.val.toNat := before
  have top : d.val.toNat < 0x110000 := by rcases d.valid with low | high <;> omega
  have digits (n : Nat) : n / 4096 = n / 64 / 64 ∧ n / 262144 = n / 64 / 64 / 64 := by omega
  -- An encoding is a number to the base 64 behind a mark that grows with the count of its digits.
  unfold String.utf8EncodeChar
  dsimp only
  split_ifs <;>
    simp only [List.cons_append, List.nil_append, List.cons_lt_cons_iff, UInt8.lt_iff_toNat_lt,
      ← UInt8.toNat_inj, UInt8.toNat_ofNat', (digits _).1, (digits _).2] <;> omega

theorem utf8EncodeChar_ne_nil (c : Char) : String.utf8EncodeChar c ≠ [] := by
  rw [← List.length_pos_iff, String.length_utf8EncodeChar]
  exact Char.utf8Size_pos c

theorem flatMap_utf8EncodeChar_lt {front back : List Char} (before : front < back) :
    front.flatMap String.utf8EncodeChar < back.flatMap String.utf8EncodeChar := by
  induction front generalizing back with
  | nil =>
    cases back with
    | nil => exact absurd before (List.lt_irrefl _)
    | cons d rest =>
      obtain ⟨octet, more, same⟩ := List.exists_cons_of_ne_nil (utf8EncodeChar_ne_nil d)
      rw [List.flatMap_nil, List.flatMap_cons, same, List.cons_append]
      exact List.nil_lt_cons _ _
  | cons c front ih =>
    cases back with
    | nil => exact absurd before (List.not_lt_nil _)
    | cons d back =>
      rw [List.flatMap_cons, List.flatMap_cons]
      rcases List.cons_lt_cons_iff.mp before with less | ⟨rfl, later⟩
      · exact utf8EncodeChar_lt less _ _
      · exact List.append_left_lt (ih later)

theorem octets_lt {first second : String} (before : first < second) :
    octets first < octets second := by
  rw [octets_eq_flatMap, octets_eq_flatMap]
  exact flatMap_utf8EncodeChar_lt (String.lt_iff.mp before)

end LogSieve.Text
