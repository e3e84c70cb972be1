import LogSieve.Pattern.Basic

/-! The weight of a pattern: the room that its parts take when it is laid out for matching octet by
octet. Repetition multiplies the weight, so short patterns can be too heavy to use. -/

namespace LogSieve.Pattern

open Text

def octetBounds : List Nat := [0x80, 0x800, 0x10000, 0x110000]

def octetsOf (code : Nat) : Nat :=
  if code < 0x80 then 1 else if code < 0x800 then 2 else if code < 0x10000 then 3 else 4

/-- The payload of each octet of a code point: six bits in all but the first. -/
def octetDigits (count code : Nat) : List Nat :=
  (List.range count).reverse.map fun i =>
    if i + 1 = count then code / Nat.pow 64 i else code / Nat.pow 64 i % 64

/-- Split an interval of one octet count so that in each piece every octet runs through a full range
of its own. -/
def pieces (width : Nat) : Nat → Nat → Nat → Intervals
  | 0, first, last => [(first, last)]
  | fuel + 1, first, last =>
    match (List.range width).find? fun i =>
      first / Nat.pow 64 (i + 1) ≠ last / Nat.pow 64 (i + 1) &&
        (first % Nat.pow 64 (i + 1) ≠ 0 || last % Nat.pow 64 (i + 1) ≠ Nat.pow 64 (i + 1) - 1) with
    | none => [(first, last)]
    | some i =>
      let block := Nat.pow 64 (i + 1)
      if first % block ≠ 0 then
        let middle := (first / block + 1) * block
        (first, middle - 1) :: pieces width fuel middle last
      else
        let middle := last / block * block
        pieces width fuel first (middle - 1) ++ [(middle, last)]

def octetRanges (set : Intervals) : List (List (Nat × Nat)) :=
  set.flatMap fun (first, last) =>
    ((0 :: octetBounds).zip octetBounds).flatMap fun (low, high) =>
      let first := max first low
      let last := min last (high - 1)
      if first ≤ last then
        let width := octetsOf first
        (pieces (width - 1) 32 first last).map fun (a, b) =>
          (octetDigits width a).zip (octetDigits width b)
      else []

def freshCount : List (Nat × Nat) → List (Nat × Nat) → Nat
  | a :: as, b :: bs => if a = b then freshCount as bs else (b :: bs).length
  | _, bs => bs.length

def freshCounts (before : List (Nat × Nat)) : List (List (Nat × Nat)) → Nat
  | [] => 0
  | ranges :: rest => freshCount before ranges + freshCounts ranges rest

def rangesWeight (set : Intervals) : Nat :=
  if set.isAscii then 64 + 8 * set.length
  else 64 + 4 * (octetRanges set).length + 32 * freshCounts [] (octetRanges set)

/-- A single character takes a cell for each octet. A set of the basic alphabet takes two cells and
its ranges; any other set takes a cell for each range of an octet that it does not share. -/
def setWeight (set : Intervals) : Nat :=
  if let [(first, last)] := set then
    if first = last then 32 * octetsOf first else rangesWeight set
  else rangesWeight set

mutual

def isVoid : Pattern → Bool
  | blank => true
  | chars _ => false
  | look _ => true
  | group _ inner => isVoid inner
  | again inner _ most => isVoid inner || most == some 0
  | sequence parts => allVoid parts
  | choice parts => allVoid parts

def allVoid : List Pattern → Bool
  | [] => true
  | part :: parts => isVoid part && allVoid parts

end

mutual

def mayBeVoid : Pattern → Bool
  | blank => true
  | chars _ => false
  | look _ => true
  | group _ inner => mayBeVoid inner
  | again inner least _ => least == 0 || mayBeVoid inner
  | sequence parts => allMayBeVoid parts
  | choice parts => anyMayBeVoid parts

def allMayBeVoid : List Pattern → Bool
  | [] => true
  | part :: parts => mayBeVoid part && allMayBeVoid parts

def anyMayBeVoid : List Pattern → Bool
  | [] => false
  | part :: parts => mayBeVoid part || anyMayBeVoid parts

end

mutual

def singles? : Pattern → Option Intervals
  | chars set => some set
  | group false inner => singles? inner
  | choice parts => allSingles? parts
  | _ => none

def allSingles? : List Pattern → Option Intervals
  | [] => some []
  | part :: parts => do return (← singles? part) ++ (← allSingles? parts)

end

/-- The room for a repetition, by the room for one copy. What can be skipped takes a cell more with
two ways to go on; an end that several ways lead to takes a cell as well. -/
def againWeight (copy : Nat) (skips : Bool) : Nat → Option Nat → Nat
  | 0, some 1 => copy + 72
  | 0, none => copy + if skips then 112 else 40
  | least, none => least * copy + 40
  | least, some most =>
    (if least = 0 then 32 else least * copy) +
      if least = most then 0 else (most - least) * (copy + 40) + 32

mutual

def weight : Pattern → Nat
  | blank => 32
  | chars set => setWeight set
  | look _ => 32
  | group captures inner => weight inner + if captures then 64 else 0
  | again inner least most =>
    -- a second copy of what is always empty describes nothing more
    if isVoid inner then againWeight (weight inner) true (min least 1) (some (min (most.getD 1) 1))
    else againWeight (weight inner) (mayBeVoid inner) least most
  | sequence parts => weightOfAll parts
  | choice parts =>
    match allSingles? parts with
    | some set => setWeight (Intervals.normal set)
    | none => 64 + 4 * parts.length + weightOfAll parts

def weightOfAll : List Pattern → Nat
  | [] => 0
  | part :: parts => weight part + weightOfAll parts

end

/-- Around every pattern stand two marks, the end, and the way over the text in front. -/
def surroundings : Nat := 208

def heaviest : Nat := 1048576

end LogSieve.Pattern
