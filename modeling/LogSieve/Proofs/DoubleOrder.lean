import Mathlib.Tactic.SplitIfs
import LogSieve.Decimal.Layout

/-! The total order of doubles. The key that doubles are sorted by puts them in the order of the
standard: smaller numbers come first, of the two zeros the negative one, and what is no number comes
last. The bits behind the sign are an exponent with a mantissa behind it, so they rise with the
size of the number. -/

open Float.Model (UnpackedFloat Format)
open Float.Model.UnpackedFloat (unpackSign unpackExponent unpackMantissa Sign)

namespace LogSieve.Decimal

/-! The parts of a double -/

section Bits

variable (bits : BitVec 64)

theorem unpackMantissa_toNat :
    (@unpackMantissa Format.binary64 bits).toNat = bits.toNat % 0x10000000000000 := by
  simp [unpackMantissa, BitVec.extractLsb, BitVec.extractLsb'_toNat]

theorem unpackExponent_toNat :
    (@unpackExponent Format.binary64 bits).toNat =
      bits.toNat / 0x10000000000000 % 2048 := by
  simp [unpackExponent, BitVec.extractLsb, BitVec.extractLsb'_toNat, Nat.shiftRight_eq_div_pow]

theorem unpackSign_toNat :
    (@unpackSign Format.binary64 bits).toNat = bits.toNat / 0x8000000000000000 := by
  have small := bits.isLt
  change (BitVec.extractLsb 63 63 bits).toNat = _
  simp [BitVec.extractLsb, BitVec.extractLsb'_toNat, Nat.shiftRight_eq_div_pow]
  omega

theorem one_append_toNat (mantissa : BitVec 52) :
    (1#1 ++ mantissa).toNat = 0x10000000000000 + mantissa.toNat := by
  rw [BitVec.toNat_append]
  exact (Nat.two_pow_add_eq_or_of_lt mantissa.isLt 1).symm

end Bits

def signOf (bits : Nat) : Sign := if bits < 0x8000000000000000 then .positive else .negative

theorem ofBitVec_unpackSign (bits : BitVec 64) :
    Sign.ofBitVec (@unpackSign Format.binary64 bits) = signOf bits.toNat := by
  have clear : @unpackSign Format.binary64 bits = 0#1 ↔
      bits.toNat < 0x8000000000000000 := by
    rw [← BitVec.toNat_inj, unpackSign_toNat]
    simp
  simp only [Sign.ofBitVec, signOf, clear]

/-- The exponent of a finite number whose bits behind the sign are these. The smallest numbers have
the exponent of those above them and no leading bit. -/
def exponentOf (magnitude : Nat) : Int :=
  if magnitude < 0x10000000000000 then -1074 else magnitude / 0x10000000000000 - 1075

def mantissaOf (magnitude : Nat) : Nat :=
  if magnitude < 0x10000000000000 then magnitude
  else 0x10000000000000 + magnitude % 0x10000000000000

theorem mantissaOf_pos {magnitude : Nat} (some : magnitude ≠ 0) : 0 < mantissaOf magnitude := by
  unfold mantissaOf
  split <;> omega

def ofMagnitude (sign : Sign) (magnitude : Nat) : UnpackedFloat :=
  if magnitude = 0x7FF0000000000000 then .infinity sign
  else if none : magnitude = 0 then .zero sign
  else .finite sign (mantissaOf magnitude) (exponentOf magnitude) (mantissaOf_pos none)

theorem ofMagnitude_cases (sign : Sign) (magnitude : Nat) :
    magnitude = 0x7FF0000000000000 ∧ ofMagnitude sign magnitude = .infinity sign ∨
    magnitude = 0 ∧ ofMagnitude sign magnitude = .zero sign ∨
    ∃ some, magnitude ≠ 0x7FF0000000000000 ∧ magnitude ≠ 0 ∧ ofMagnitude sign magnitude =
      .finite sign (mantissaOf magnitude) (exponentOf magnitude) some := by
  unfold ofMagnitude
  by_cases infinite : magnitude = 0x7FF0000000000000
  · exact .inl ⟨infinite, if_pos infinite⟩
  · rw [if_neg infinite]
    by_cases zero : magnitude = 0
    · exact .inr (.inl ⟨zero, dif_pos zero⟩)
    · exact .inr (.inr ⟨mantissaOf_pos zero, infinite, zero, dif_neg zero⟩)

theorem unpack_cases (x : Float.Model) :
    x.unpack = .notANumber ∧ x.toBits.toNat = 0x7FF8000000000000 ∨
    x.toBits.toNat % 0x8000000000000000 ≤ 0x7FF0000000000000 ∧
      x.unpack =
        ofMagnitude (signOf x.toBits.toNat) (x.toBits.toNat % 0x8000000000000000) := by
  obtain ⟨word, valid⟩ := x
  have whole : word.toBitVec.toNat = word.toNat := rfl
  have mantissa := unpackMantissa_toNat word.toBitVec
  have exponent := unpackExponent_toNat word.toBitVec
  have top : @unpackExponent Format.binary64 word.toBitVec = -1#11 ↔
      word.toNat / 0x10000000000000 % 2048 = 2047 := by
    rw [← BitVec.toNat_inj, exponent]
    rfl
  have bottom : @unpackExponent Format.binary64 word.toBitVec = 0#11 ↔
      word.toNat / 0x10000000000000 % 2048 = 0 := by
    rw [← BitVec.toNat_inj, exponent]
    rfl
  have zero : @unpackMantissa Format.binary64 word.toBitVec = 0#52 ↔
      word.toNat % 0x10000000000000 = 0 := by
    rw [← BitVec.toNat_inj, mantissa]
    rfl
  rw [whole] at mantissa exponent
  delta Float.Model.unpack UnpackedFloat.unpack
  dsimp only
  rw [ofBitVec_unpackSign, whole]
  by_cases atTop : word.toNat / 0x10000000000000 % 2048 = 2047
  · rw [if_pos (top.mpr atTop)]
    by_cases blank : word.toNat % 0x10000000000000 = 0
    · right
      have infinite : word.toNat % 0x8000000000000000 = 0x7FF0000000000000 := by omega
      rw [if_pos (zero.mpr blank), infinite]
      exact ⟨Nat.le_refl _, rfl⟩
    · left
      rw [if_neg (mt zero.mp blank)]
      exact ⟨rfl, congrArg BitVec.toNat (valid.eq_packedNaN (top.mpr atTop) (mt zero.mp blank))⟩
  · right
    have finite : ¬ word.toNat % 0x8000000000000000 = 0x7FF0000000000000 := by omega
    refine ⟨by omega, ?_⟩
    rw [if_neg (mt top.mp atTop)]
    by_cases atBottom : word.toNat / 0x10000000000000 % 2048 = 0
    · rw [if_pos (bottom.mpr atBottom)]
      by_cases blank : word.toNat % 0x10000000000000 = 0
      · have none : word.toNat % 0x8000000000000000 = 0 := by omega
        rw [dif_pos (zero.mpr blank), none]
        rfl
      · have small : word.toNat % 0x8000000000000000 < 0x10000000000000 := by omega
        rw [dif_neg (mt zero.mp blank), ofMagnitude, if_neg finite, dif_neg (by omega),
          UnpackedFloat.finite.injEq]
        simp only [mantissaOf, exponentOf, if_pos small, mantissa, exponent, atBottom]
        exact ⟨trivial, by omega, by decide⟩
    · have large : ¬ word.toNat % 0x8000000000000000 < 0x10000000000000 := by omega
      have leading := one_append_toNat (@unpackMantissa Format.binary64 word.toBitVec)
      have bias : Format.binary64.exponentBias = 1023 := rfl
      rw [if_neg (mt bottom.mp atBottom), ofMagnitude, if_neg finite, dif_neg (by omega),
        UnpackedFloat.finite.injEq]
      simp only [mantissaOf, exponentOf, if_neg large, leading, mantissa, exponent, bias]
      exact ⟨trivial, by omega, by omega⟩

/-! Comparing -/

theorem exponentOf_lt_or {low high : Nat} (below : low < high) :
    exponentOf low < exponentOf high ∨
      exponentOf low = exponentOf high ∧ mantissaOf low < mantissaOf high := by
  simp only [exponentOf, mantissaOf]
  split_ifs <;> omega

/-- Comparing exponents and then mantissas is comparing the bits behind the sign. -/
theorem compare_exponentOf (a b : Nat) :
    (compare (exponentOf a) (exponentOf b)).then (compare (mantissaOf a) (mantissaOf b)) =
      compare a b := by
  rcases Nat.lt_trichotomy a b with below | rfl | above
  · rw [Nat.compare_eq_lt.mpr below]
    rcases exponentOf_lt_or below with less | ⟨same, less⟩
    · rw [Std.compare_eq_lt.mpr less]
      rfl
    · rw [same, Std.compare_self, Nat.compare_eq_lt.mpr less]
      rfl
  · rw [Std.compare_self, Std.compare_self, Std.compare_self]
    rfl
  · rw [Nat.compare_eq_gt.mpr above]
    rcases exponentOf_lt_or above with less | ⟨same, less⟩
    · rw [Std.compare_eq_gt.mpr less]
      rfl
    · rw [same, Std.compare_self, Nat.compare_eq_gt.mpr less]
      rfl

def compareMagnitudes (a b : Nat) : Sign → Sign → Ordering
  | .positive, .positive => compare a b
  | .negative, .negative => compare b a
  | .negative, .positive => if a = 0 ∧ b = 0 then .eq else .lt
  | .positive, .negative => if a = 0 ∧ b = 0 then .eq else .gt

theorem compare_ofMagnitude {a b : Nat} (boundA : a ≤ 0x7FF0000000000000)
    (boundB : b ≤ 0x7FF0000000000000) (s t : Sign) :
    (ofMagnitude s a).compare (ofMagnitude t b) = some (compareMagnitudes a b s t) := by
  have swapped : (compare a b).swap = compare b a := Nat.compare_swap a b
  have same (sign : Sign) : compare sign sign = .eq := by cases sign <;> rfl
  have below : compare Sign.negative .positive = .lt := rfl
  have above : compare Sign.positive .negative = .gt := rfl
  have figures := compare_exponentOf a b
  -- On either side an infinite number, a zero or another number, and both signs.
  rcases ofMagnitude_cases s a with
      ⟨sizeA, formA⟩ | ⟨sizeA, formA⟩ | ⟨_, infiniteA, zeroA, formA⟩ <;>
    rcases ofMagnitude_cases t b with
      ⟨sizeB, formB⟩ | ⟨sizeB, formB⟩ | ⟨_, infiniteB, zeroB, formB⟩ <;>
    rw [formA, formB] <;> clear formA formB <;> cases s <;> cases t <;>
    dsimp only [UnpackedFloat.compare, compareMagnitudes] <;>
    grind [Nat.compare_eq_ite_lt]

theorem ofMagnitude_ne_notANumber (sign : Sign) (magnitude : Nat) :
    ofMagnitude sign magnitude ≠ .notANumber := by
  rcases ofMagnitude_cases sign magnitude with ⟨-, form⟩ | ⟨-, form⟩ | ⟨_, -, -, form⟩ <;>
    rw [form] <;> exact UnpackedFloat.noConfusion

theorem lt_iff_compare (x y : Float) :
    x < y ↔ x.toModel.unpack.compare y.toModel.unpack = some .lt := by
  have unfolded : x < y ↔ Float.Model.lt x.toModel y.toModel = true := decide_eq_true_iff
  rw [unfolded, Float.Model.lt, UnpackedFloat.lt, beq_iff_eq]

theorem beq_iff_compare (x y : Float) :
    (x == y) = true ↔ x.toModel.unpack.compare y.toModel.unpack = some .eq := by
  change (x.toModel.unpack.compare y.toModel.unpack == some .eq) = true ↔ _
  rw [beq_iff_eq]

theorem isNaN_iff (x : Float) : x.isNaN = true ↔ x.toModel.unpack = .notANumber := by
  change x.toModel.unpack.isNaN = true ↔ _
  cases x.toModel.unpack with
  | notANumber => exact ⟨fun _ => rfl, fun _ => rfl⟩
  | _ => exact ⟨nofun, nofun⟩

/-! The order -/

/-- One double stands before another or at its place: it is the smaller number, or the same number
and not a positive zero before a negative one, or the other one is no number. -/
def NotAbove (x y : Float) : Prop :=
  x < y ∨
    (x == y) = true ∧
      (signOf y.toBits.toNat = .negative → signOf x.toBits.toNat = .negative) ∨
    y.isNaN = true

def wordKey (word : Nat) : Nat :=
  if word < 0x8000000000000000 then 0x8000000000000000 + word else 0xFFFFFFFFFFFFFFFF - word

theorem totalKey_eq (x : Float) : totalKey x = wordKey x.toBits.toNat := rfl

theorem wordKey_le_iff_compare {first second : Nat} (smallFirst : first < 0x10000000000000000)
    (smallSecond : second < 0x10000000000000000) :
    let compared := compareMagnitudes (first % 0x8000000000000000)
      (second % 0x8000000000000000) (signOf first) (signOf second)
    wordKey first ≤ wordKey second ↔
      compared = .lt ∨ compared = .eq ∧ (signOf second = .negative → signOf first = .negative) := by
  intro compared
  unfold wordKey
  by_cases plain : first < 0x8000000000000000 <;>
    by_cases plain' : second < 0x8000000000000000 <;>
      simp only [compared, signOf, plain, plain', if_true, if_false, compareMagnitudes,
        Nat.compare_eq_lt, Nat.compare_eq_eq] <;> grind

theorem totalKey_le_iff (x y : Float) : totalKey x ≤ totalKey y ↔ NotAbove x y := by
  have smallX := x.toBits.toNat_lt
  have smallY := y.toBits.toNat_lt
  have castX : x.toModel.toBits = x.toBits := rfl
  have castY : y.toModel.toBits = y.toBits := rfl
  have casesX := unpack_cases x.toModel
  have casesY := unpack_cases y.toModel
  rw [castX] at casesX
  rw [castY] at casesY
  rw [NotAbove, lt_iff_compare, beq_iff_compare, isNaN_iff, totalKey_eq, totalKey_eq]
  generalize x.toBits.toNat = first at *
  generalize y.toBits.toNat = second at *
  rcases casesY with ⟨noneY, rfl⟩ | ⟨boundY, numberY⟩
  · simp only [noneY, or_true, iff_true, wordKey]
    rcases casesX with ⟨-, rfl⟩ | ⟨boundX, -⟩ <;> split_ifs <;> omega
  · have someY := ofMagnitude_ne_notANumber (signOf second) (second % 0x8000000000000000)
    rcases casesX with ⟨noneX, rfl⟩ | ⟨boundX, numberX⟩
    · have apart (other : UnpackedFloat) : UnpackedFloat.compare .notANumber other = none := rfl
      rw [noneX, apart]
      simp only [numberY, someY, reduceCtorEq, false_and, or_false, iff_false, wordKey]
      split_ifs <;> omega
    · rw [numberX, numberY, compare_ofMagnitude boundX boundY]
      simp only [someY, or_false, Option.some.injEq]
      exact wordKey_le_iff_compare smallX smallY

theorem totalKey_injective {x y : Float} (same : totalKey x = totalKey y) : x = y := by
  have smallX := x.toBits.toNat_lt
  have smallY := y.toBits.toNat_lt
  have words : x.toBits = y.toBits := by
    rw [← UInt64.toNat_inj]
    rw [totalKey_eq, totalKey_eq, wordKey, wordKey] at same
    split_ifs at same <;> omega
  obtain ⟨⟨bits, valid⟩⟩ := x
  obtain ⟨⟨bits', valid'⟩⟩ := y
  obtain rfl : bits = bits' := words
  rfl

end LogSieve.Decimal
