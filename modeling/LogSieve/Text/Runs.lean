/-! Sets of characters written down as run lengths: how many code points are outside the set, how
many are inside, how many outside again, and so on, as hexadecimal numbers between blanks. -/

namespace LogSieve.Text

abbrev Intervals := List (Nat × Nat)

namespace Intervals

def contains (set : Intervals) (code : Nat) : Bool :=
  set.any fun (first, last) => first ≤ code && code ≤ last

def holds (set : Intervals) (c : Char) : Bool := set.contains c.toNat

end Intervals

def hexDigit? (c : Char) : Option Nat :=
  let code := c.toNat
  if 48 ≤ code ∧ code ≤ 57 then some (code - 48)
  else if 65 ≤ code ∧ code ≤ 70 then some (code - 55)
  else if 97 ≤ code ∧ code ≤ 102 then some (code - 87)
  else none

/-- The numbers of a run-length text; anything that is no digit ends a number. -/
def runLengths (text : List Char) : List Nat :=
  let close (acc : List Nat × Option Nat) : List Nat :=
    match acc.2 with
    | some n => n :: acc.1
    | none => acc.1
  let step (acc : List Nat × Option Nat) (c : Char) : List Nat × Option Nat :=
    match hexDigit? c with
    | some d => (acc.1, some (acc.2.getD 0 * 16 + d))
    | none => (close acc, none)
  (close (text.foldl step ([], none))).reverse

/-- The intervals that run lengths describe, counted from a code point on. -/
def intervalsFrom (start : Nat) : List Nat → Intervals
  | outside :: inside :: rest =>
    (start + outside, start + outside + inside - 1) ::
      intervalsFrom (start + outside + inside) rest
  | _ => []

def intervalsOf (runs : String) : Intervals := intervalsFrom 0 (runLengths runs.toList)

def namedIntervals? (table : List (List String × String)) (name : String) : Option Intervals :=
  (table.find? fun row => row.1.contains name).map fun row => intervalsOf row.2

end LogSieve.Text
