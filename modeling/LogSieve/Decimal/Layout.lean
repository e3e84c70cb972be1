import LogSieve.Decimal.Shortest

/-! How a decimal is written down: with a point among its digits or with an exponent, or with a
fixed number of places. -/

namespace LogSieve.Decimal

/-- Numbers `d.ddd * 10^e` with `least ≤ e < limit` are written without an exponent. -/
structure Layout where
  least : Int
  limit : Int
  plus : Bool

def zeros (n : Nat) : String := String.ofList (List.replicate n '0')

def positional (d : Numeral) : String :=
  let digits := Nat.toDigits 10 d.coefficient
  if 0 ≤ d.exponent then String.ofList digits ++ zeros d.exponent.toNat ++ ".0"
  else
    let places := (-d.exponent).toNat
    if places < digits.length then
      String.ofList (digits.take (digits.length - places)) ++ "." ++
        String.ofList (digits.drop (digits.length - places))
    else "0." ++ zeros (places - digits.length) ++ String.ofList digits

def scientific (plus : Bool) (d : Numeral) : String :=
  let digits := Nat.toDigits 10 d.coefficient
  let power : Int := d.exponent + (digits.length : Int) - 1
  let fraction := digits.drop 1
  String.ofList (digits.take 1) ++
    (if fraction.isEmpty then "" else "." ++ String.ofList fraction) ++
    (if power < 0 then s!"e-{power.natAbs}" else if plus then s!"e+{power.natAbs}"
      else s!"e{power.natAbs}")

namespace Layout

def document : Layout := ⟨-5, 16, true⟩

def trace : Layout := ⟨-4, 16, false⟩

def write (layout : Layout) (negative : Bool) (d : Numeral) : String :=
  let power : Int := d.exponent + (digitCount d.coefficient : Int) - 1
  (if negative then "-" else "") ++
    if d.coefficient = 0 || (layout.least ≤ power && power < layout.limit) then positional d
    else scientific layout.plus d

def float (layout : Layout) (x : Float) : String :=
  let parts := Binary.ofFloat x
  layout.write parts.negative (shortest parts)

end Layout

/-- The quotient rounded to the nearest natural number, a half to the even one. -/
def roundDiv (num den : Nat) : Nat :=
  let down := num / den
  let rest := 2 * (num % den)
  if rest < den ∨ (rest = den ∧ down % 2 = 0) then down else down + 1

def fixed (places : Nat) (x : Float) : String :=
  let parts := Binary.ofFloat x
  let scaled := parts.mantissa * Nat.pow 10 places
  let rounded :=
    if 0 ≤ parts.exponent then scaled * Nat.pow 2 parts.exponent.toNat
    else roundDiv scaled (Nat.pow 2 (-parts.exponent).toNat)
  let digits := Nat.toDigits 10 rounded
  let padded := List.replicate (places + 1 - digits.length) '0' ++ digits
  (if parts.negative then "-" else "") ++ String.ofList (padded.take (padded.length - places)) ++
    (if places = 0 then "" else "." ++ String.ofList (padded.drop (padded.length - places)))

/-- Order of doubles by sign and magnitude: every bit pattern has its place, negative ones first. -/
def totalKey (x : Float) : Nat :=
  let bits := x.toBits.toNat
  if bits < 0x8000000000000000 then 0x8000000000000000 + bits else 0xFFFFFFFFFFFFFFFF - bits

end LogSieve.Decimal
