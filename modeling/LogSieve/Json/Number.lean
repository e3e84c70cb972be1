import LogSieve.Json.Basic
import LogSieve.Json.Fault

/-! Numbers of a JSON text. An integer literal in range is an integer, and everything else a double:
its first digits, as many as fit in 64 bits, times or divided by a power of ten. -/

namespace LogSieve.Json

inductive Numeral where
  | natural (value : Nat)
  | negative (value : Int)
  | double (value : Float)

namespace Numeral

def found : Numeral → Found
  | natural value => .integer value
  | negative value => .integer value
  | double value => .double value

def toJson : Numeral → Json
  | natural value => .integer value
  | negative value => .integer value
  | double value => .double value

end Numeral

def digit? (c : Char) : Option Nat := if c.isDigit then some (c.toNat - 48) else none

def startsWithDigit : List Char → Bool
  | c :: _ => c.isDigit
  | [] => false

structure Digits where
  significand : Nat
  taken : Nat
  dropped : Nat
  rest : List Char

/-- Take digits while the significand stays below 64 bits; after that drop all that follow. -/
def Digits.read (significand : Nat) : List Char → Digits
  | [] => ⟨significand, 0, 0, []⟩
  | c :: text =>
    match digit? c with
    | none => ⟨significand, 0, 0, c :: text⟩
    | some d =>
      if significand * 10 + d < 0x10000000000000000 then
        let more := Digits.read (significand * 10 + d) text
        { more with taken := more.taken + 1 }
      else
        let further := (c :: text).takeWhile Char.isDigit
        ⟨significand, 0, further.length, text.dropWhile Char.isDigit⟩

def powerOfTen (exponent : Nat) : Float := Float.ofScientific 1 false exponent

/-- Division by a power of ten, at most `10 ^ 308` at a time. A double is zero after three times. -/
def scaleDown : Nat → Float → Nat → Float
  | 0, x, _ => x
  | steps + 1, x, exponent =>
    if exponent ≤ 308 then x / powerOfTen exponent
    else if x == 0.0 then x
    else scaleDown steps (x / powerOfTen 308) (exponent - 308)

/-- `significand * 10 ^ exponent`, or nothing when that is beyond every double. -/
def scale? (significand : Nat) (exponent : Int) : Option Float :=
  let x := significand.toUInt64.toFloat
  if exponent < 0 then some (scaleDown 4 x exponent.natAbs)
  else if exponent ≤ 308 then
    let y := x * powerOfTen exponent.toNat
    if y.isInf then none else some y
  else if x == 0.0 then some x
  else none

def signed (minus : Bool) (x : Float) : Float := if minus then -x else x

def doubleOf (minus : Bool) (significand : Nat) (exponent : Int) (rest : List Char) :
    Except Fault (Numeral × List Char) :=
  match scale? significand exponent with
  | some x => .ok (.double (signed minus x), rest)
  | none => .error (.behind .numberTooLarge rest)

/-- Digits of an exponent, of which `value` is read already. Beyond `2 ^ 31` the number is zero or
too large whatever follows. -/
def exponentDigits (minus : Bool) (significand : Nat) (start : Int) (down : Bool) :
    Nat → List Char → Except Fault (Numeral × List Char)
  | value, [] => doubleOf minus significand (if down then start - value else start + value) []
  | value, c :: text =>
    match digit? c with
    | none => doubleOf minus significand (if down then start - value else start + value) (c :: text)
    | some d =>
      if value * 10 + d < 0x80000000 then
        exponentDigits minus significand start down (value * 10 + d) text
      else if significand ≠ 0 ∧ !down then .error (.behind .numberTooLarge text)
      else .ok (.double (signed minus 0.0), text.dropWhile Char.isDigit)

def exponent (minus : Bool) (significand : Nat) (start : Int) (text : List Char) :
    Except Fault (Numeral × List Char) :=
  let (down, text) := match text with
    | '+' :: rest => (false, rest)
    | '-' :: rest => (true, rest)
    | rest => (false, rest)
  match text with
  | [] => .error (.behind .endInValue [])
  | c :: rest =>
    match digit? c with
    | some d => exponentDigits minus significand start down d rest
    | none => .error (.next .badNumber (c :: rest))

def exponentOrEnd (minus : Bool) (significand : Nat) (start : Int) (text : List Char) :
    Except Fault (Numeral × List Char) :=
  match text with
  | 'e' :: rest => exponent minus significand start rest
  | 'E' :: rest => exponent minus significand start rest
  | rest => doubleOf minus significand start rest

def fraction (minus : Bool) (significand : Nat) (start : Int) (text : List Char) :
    Except Fault (Numeral × List Char) :=
  let digits := Digits.read significand text
  if startsWithDigit text then
    exponentOrEnd minus digits.significand (start - digits.taken) digits.rest
  else
    match text with
    | [] => .error (.behind .endInValue [])
    | rest => .error (.next .badNumber rest)

def numberTail (minus : Bool) (digits : Digits) : Except Fault (Numeral × List Char) :=
  match digits.rest with
  | '.' :: rest => fraction minus digits.significand digits.dropped rest
  | 'e' :: rest => exponent minus digits.significand digits.dropped rest
  | 'E' :: rest => exponent minus digits.significand digits.dropped rest
  | rest =>
    if digits.dropped ≠ 0 then doubleOf minus digits.significand digits.dropped rest
    else if !minus then .ok (.natural digits.significand, rest)
    else if digits.significand = 0 ∨ 0x8000000000000000 < digits.significand then
      doubleOf minus digits.significand 0 rest
    else .ok (.negative (-(digits.significand : Int)), rest)

def numeral (minus : Bool) : List Char → Except Fault (Numeral × List Char)
  | [] => .error (.behind .endInValue [])
  | '0' :: rest =>
    if startsWithDigit rest then .error (.next .badNumber rest)
    else numberTail minus ⟨0, 1, 0, rest⟩
  | c :: rest =>
    if c.isDigit then numberTail minus (Digits.read 0 (c :: rest))
    else .error (.next .badNumber (c :: rest))

end LogSieve.Json
