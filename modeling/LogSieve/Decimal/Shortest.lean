/-! The shortest decimal that reads back. A finite double is a mantissa times a power of two; of the
decimals that round to it the one with the fewest digits is taken, and of those the nearest. All
comparisons are between natural numbers. -/

namespace LogSieve.Decimal

/-- The number `(-1)^negative * mantissa * 2^exponent`. -/
structure Binary where
  negative : Bool
  mantissa : Nat
  exponent : Int
  deriving DecidableEq, Repr

namespace Binary

def ofBits (bits : UInt64) : Binary :=
  let raw := bits.toNat
  let power : Nat := raw / 0x10000000000000 % 2048
  let fraction := raw % 0x10000000000000
  if power = 0 then ⟨raw / 0x8000000000000000 == 1, fraction, -1074⟩
  else ⟨raw / 0x8000000000000000 == 1, 0x10000000000000 + fraction, (power : Int) - 1075⟩

def ofFloat (x : Float) : Binary := ofBits x.toBits

def quarter (x : Binary) : Nat × Nat :=
  if 2 ≤ x.exponent then (Nat.pow 2 (x.exponent - 2).toNat, 1)
  else (1, Nat.pow 2 (2 - x.exponent).toNat)

/-- The gap below a power of two is half the gap above it. -/
def narrowBelow (x : Binary) : Bool := x.mantissa == 0x10000000000000 && x.exponent != -1074

end Binary

structure Numeral where
  coefficient : Nat
  exponent : Int
  deriving DecidableEq, Repr

def digitCount (n : Nat) : Nat := (Nat.toDigits 10 n).length

/-- The least `k` with `num / den < 10 ^ k`, for a positive fraction. -/
def order (num den : Nat) : Int :=
  if den ≤ num then digitCount (num / den)
  else 1 - (digitCount ((den + num - 1) / num - 1) : Int)

/-- `num / den` times `10 ^ -grid` as a fraction. -/
def onGrid (num den : Nat) (grid : Int) : Nat × Nat :=
  if 0 ≤ grid then (num, den * Nat.pow 10 grid.toNat) else (num * Nat.pow 10 (-grid).toNat, den)

/-- The multiple of `10 ^ grid` nearest to the number among its two neighbours that round to it. -/
def candidate? (x : Binary) (grid : Int) : Option Numeral :=
  let (unit, den) := x.quarter
  let value := onGrid (4 * x.mantissa * unit) den grid
  let low := (onGrid ((4 * x.mantissa - (if x.narrowBelow then 1 else 2)) * unit) den grid).1
  let high := (onGrid ((4 * x.mantissa + 2) * unit) den grid).1
  let below := value.1 / value.2
  let inside (c : Nat) : Bool :=
    if x.mantissa % 2 = 0 then low ≤ c * value.2 && c * value.2 ≤ high
    else low < c * value.2 && c * value.2 < high
  let above := below + 1
  if inside below && (!inside above || value.1 - below * value.2 ≤ above * value.2 - value.1) then
    some ⟨below, grid⟩
  else if inside above then some ⟨above, grid⟩
  else none

def dropZeros : Nat → Numeral → Numeral
  | 0, d => d
  | fuel + 1, d =>
    if d.coefficient ≠ 0 ∧ d.coefficient % 10 = 0 then
      dropZeros fuel ⟨d.coefficient / 10, d.exponent + 1⟩
    else d

/-- Seventeen digits always suffice. -/
def shortest (x : Binary) : Numeral :=
  if x.mantissa = 0 then ⟨0, 0⟩
  else
    let (unit, den) := x.quarter
    let k := order (4 * x.mantissa * unit) den
    match (List.range 17).findSome? fun (n : Nat) => candidate? x (k - 1 - (n : Int)) with
    | some d => dropZeros (digitCount d.coefficient) d
    | none => ⟨0, 0⟩

end LogSieve.Decimal
