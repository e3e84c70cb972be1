import Mathlib.Data.List.TakeWhile
import LogSieve.Json.Reader
import LogSieve.Json.Writer

/-! The tokens of a JSON text are read as they were written: gaps, words, strings and integers.
What follows a token must not lengthen it, which matters for numbers only. -/

namespace LogSieve.Json

/-- The text does not begin with a character that would lengthen a number. -/
def Ends : List Char → Prop
  | [] => True
  | c :: _ => c.isDigit = false ∧ c ≠ '.' ∧ c ≠ 'e' ∧ c ≠ 'E'

theorem ends_cons {c : Char} (rest : List Char)
    (plain : c.isDigit = false ∧ c ≠ '.' ∧ c ≠ 'e' ∧ c ≠ 'E' := by decide) : Ends (c :: rest) :=
  plain

def IsGap (text : List Char) : Prop := ∀ c ∈ text, isGap c = true

theorem isGap_nil : IsGap [] := nofun

/-- `step` takes the whole text for `result`, whatever gap stands in front and whatever follows that
does not lengthen it. -/
def Reads (step : Step α) (text : List Char) (result : α) : Prop :=
  ∀ gap rest, IsGap gap → Ends rest → step (gap ++ (text ++ rest)) = .ok (result, rest)

theorem skipGap_append {gap : List Char} (blank : IsGap gap) (text : List Char) :
    skipGap (gap ++ text) = skipGap text := by
  rw [skipGap, List.dropWhile_append_of_pos blank]
  rfl

theorem skipGap_cons {c : Char} (rest : List Char) (solid : isGap c = false) :
    skipGap (c :: rest) = c :: rest := by
  rw [skipGap, List.dropWhile_cons, solid]
  rfl

theorem ends_of_isGap {gap : List Char} (blank : IsGap gap) {rest : List Char} (ends : Ends rest) :
    Ends (gap ++ rest) := by
  cases gap with
  | nil => exact ends
  | cons c others =>
    have first : isGap c = true := blank c List.mem_cons_self
    simp only [isGap, Bool.or_eq_true, decide_eq_true_eq] at first
    rcases first with ((rfl | rfl) | rfl) | rfl <;> exact ends_cons _

theorem isGap_blank : IsGap [' '] := fun _ member => List.mem_singleton.mp member ▸ rfl

theorem isGap_breakLine (level : Nat) : IsGap (breakLine level) := by
  intro c member
  rcases List.mem_cons.mp member with rfl | blank
  · rfl
  · rw [List.eq_of_mem_replicate blank]
    rfl

theorem word_append (letters rest : List Char) : word letters (letters ++ rest) = .ok rest := by
  induction letters with
  | nil => cases rest <;> rfl
  | cons letter letters ih =>
    rw [List.cons_append, word, if_pos rfl, ih]

/-! ### Strings -/

theorem hexDigit?_hexChar {n : Nat} (small : n < 16) : Text.hexDigit? (hexChar n) = some n := by
  have all : ∀ n < 16, Text.hexDigit? (hexChar n) = some n := by decide
  exact all n small

theorem stringBody_escapeChar (c : Char) (done rest : List Char) :
    stringBody true .plain done (escapeChar c ++ rest) =
      stringBody true .plain (c :: done) rest := by
  unfold escapeChar
  split_ifs with quote slash back feed line ret tab control
  · subst quote; rfl
  · subst slash; rfl
  · subst back; rfl
  · subst feed; rfl
  · subst line; rfl
  · subst ret; rfl
  · subst tab; rfl
  · -- A control character is below `0x20`, so its two last digits are all of it.
    have high : c.toNat / 16 < 16 := by omega
    have back : c.toNat / 16 * 16 + c.toNat % 16 = c.toNat := by omega
    have same : Char.ofNat c.toNat = c := Char.ofNat_toNat c
    have zero : Text.hexDigit? '0' = some 0 := rfl
    have notLow : isLowHalf c.toNat = false := by simp [isLowHalf]; omega
    have notHigh : isHighHalf c.toNat = false := by simp [isHighHalf]; omega
    simp [stringBody, zero, hexDigit?_hexChar high, hexDigit?_hexChar (Nat.mod_lt c.toNat _),
      closeHex, notLow, notHigh, back, same]
  · rw [List.singleton_append, stringBody, if_neg quote, if_neg slash, if_neg control]

theorem stringBody_flatMap (chars done rest : List Char) :
    stringBody true .plain done (chars.flatMap escapeChar ++ '"' :: rest) =
      .ok (done.reverse ++ chars, rest) := by
  induction chars generalizing done with
  | nil =>
    rw [List.flatMap_nil, List.nil_append, stringBody, if_pos rfl, List.append_nil]
  | cons c chars ih =>
    rw [List.flatMap_cons, List.append_assoc, stringBody_escapeChar, ih, List.reverse_cons,
      List.append_assoc, List.singleton_append]

theorem quotedText_escaped (text : String) (rest : List Char) :
    quotedText (text.toList.flatMap escapeChar ++ '"' :: rest) = .ok (text, rest) := by
  rw [quotedText, stringBody_flatMap, List.reverse_nil, List.nil_append]
  exact congrArg (fun found => Except.ok (found, rest)) String.ofList_toList

theorem writeString_append (text : String) (rest : List Char) :
    writeString text ++ rest = '"' :: (text.toList.flatMap escapeChar ++ '"' :: rest) := by
  simp [writeString, writeChars]

/-! ### Integers -/

theorem ne_of_isDigit {c d : Char} (digit : c.isDigit = true)
    (other : d.isDigit = false := by decide) : c ≠ d := by
  rintro rfl
  rw [digit] at other
  contradiction

theorem isGap_of_isDigit {c : Char} (digit : c.isDigit = true) : isGap c = false := by
  simp [isGap, ne_of_isDigit digit (d := ' '), ne_of_isDigit digit (d := '\n'),
    ne_of_isDigit digit (d := '\t'), ne_of_isDigit digit (d := '\r')]

theorem startsWithDigit_of_ends {rest : List Char} (ends : Ends rest) :
    startsWithDigit rest = false := by
  cases rest with
  | nil => rfl
  | cons c rest => exact ends.1

theorem le_ofDigitChars (digits : List Char) (start : Nat) :
    start ≤ Nat.ofDigitChars 10 digits start := by
  induction digits generalizing start with
  | nil => simp
  | cons c digits ih =>
    rw [Nat.ofDigitChars_cons]
    exact Nat.le_trans (by omega) (ih _)

theorem Digits.read_append {digits rest : List Char} (start : Nat)
    (decimal : ∀ c ∈ digits, c.isDigit = true)
    (fits : Nat.ofDigitChars 10 digits start < 0x10000000000000000)
    (finished : startsWithDigit rest = false) :
    Digits.read start (digits ++ rest) =
      ⟨Nat.ofDigitChars 10 digits start, digits.length, 0, rest⟩ := by
  induction digits generalizing start with
  | nil =>
    rw [List.nil_append, Nat.ofDigitChars_nil]
    cases rest with
    | nil => rfl
    | cons c rest =>
      have none : digit? c = none := if_neg (Bool.eq_false_iff.mp finished)
      rw [Digits.read, none]
      rfl
  | cons c digits ih =>
    have some : digit? c = some (c.toNat - '0'.toNat) := if_pos (decimal c List.mem_cons_self)
    rw [Nat.ofDigitChars_cons, Nat.mul_comm 10 start] at fits ⊢
    have bounded := Nat.lt_of_le_of_lt (le_ofDigitChars digits _) fits
    rw [List.cons_append, Digits.read, some]
    simp only
    rw [if_pos bounded, ih _ (fun d member => decimal d (List.mem_cons_of_mem c member)) fits]
    rfl

theorem toDigits_eq_cons {n : Nat} (positive : 0 < n) :
    ∃ c digits, Nat.toDigits 10 n = c :: digits ∧ c ≠ '0' := by
  induction n using Nat.strongRecOn with
  | ind n ih =>
    rw [Nat.toDigits_eq_if (by decide)]
    split
    · refine ⟨Nat.digitChar n, [], rfl, fun zero => ?_⟩
      exact Nat.ne_of_gt positive (Nat.digitChar_eq_zero.mp zero)
    · next large =>
      obtain ⟨c, digits, same, nonzero⟩ := ih (n / 10) (by omega) (by omega)
      exact ⟨c, digits ++ [Nat.digitChar (n % 10)], by rw [same, List.cons_append], nonzero⟩

theorem numberTail_of_ends {minus : Bool} {digits : Digits} (ends : Ends digits.rest)
    (taken : digits.dropped = 0) :
    numberTail minus digits =
      if !minus then .ok (.natural digits.significand, digits.rest)
      else if digits.significand = 0 ∨ 0x8000000000000000 < digits.significand then
        doubleOf minus digits.significand 0 digits.rest
      else .ok (.negative (-(digits.significand : Int)), digits.rest) := by
  unfold numberTail
  split
  · next rest same => rw [same] at ends; exact absurd rfl ends.2.1
  · next rest same => rw [same] at ends; exact absurd rfl ends.2.2.1
  · next rest same => rw [same] at ends; exact absurd rfl ends.2.2.2
  · rw [if_neg (fun dropped => dropped taken)]

theorem numeral_toDigits (minus : Bool) {n : Nat} (fits : n < 0x10000000000000000)
    {rest : List Char} (ends : Ends rest) :
    ∃ taken, numeral minus (Nat.toDigits 10 n ++ rest) = numberTail minus ⟨n, taken, 0, rest⟩ := by
  have finished := startsWithDigit_of_ends ends
  have decimal : ∀ c ∈ Nat.toDigits 10 n, c.isDigit = true := fun c member =>
    Nat.isDigit_of_mem_toDigits (by decide) (by decide) member
  rcases Nat.eq_zero_or_pos n with rfl | positive
  · refine ⟨1, ?_⟩
    rw [Nat.toDigits_zero, List.singleton_append, numeral, finished]
    rfl
  · obtain ⟨c, digits, same, nonzero⟩ := toDigits_eq_cons positive
    have value : Nat.ofDigitChars 10 (c :: digits) 0 = n := by
      rw [← same, Nat.ofDigitChars_ten_toDigits]
    rw [same] at decimal ⊢
    refine ⟨(c :: digits).length, ?_⟩
    rw [List.cons_append, numeral.eq_3 _ _ _ nonzero, if_pos (decimal c List.mem_cons_self),
      ← List.cons_append, Digits.read_append 0 decimal (value ▸ fits) finished, value]

end LogSieve.Json
