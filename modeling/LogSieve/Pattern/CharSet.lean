import LogSieve.Ranking
import LogSieve.Text.Runs
import LogSieve.Text.CaseTable

/-! Sets of characters inside a pattern: union is the joining of interval lists, everything else
comes from the complement. A set that ignores case holds with a character its whole case class. -/

namespace LogSieve.Text.Intervals

def lastCode : Nat := 0x10FFFF

def surrogates : Nat × Nat := (0xD800, 0xDFFF)

/-- Put an interval in front of a normal list, with all that it touches. -/
def absorb (interval : Nat × Nat) : Intervals → Intervals
  | [] => [interval]
  | next :: rest =>
    if next.1 ≤ interval.2 + 1 then absorb (interval.1, max interval.2 next.2) rest
    else interval :: next :: rest

def merge : Intervals → Intervals
  | [] => []
  | interval :: rest => absorb interval (merge rest)

def normal (set : Intervals) : Intervals := merge (Ranking.ranked Prod.fst set)

/-- The gaps of a normal list from a code point on. -/
def gaps (start : Nat) : Intervals → Intervals
  | [] => if start ≤ lastCode then [(start, lastCode)] else []
  | interval :: rest =>
    (if start < interval.1 then [(start, interval.1 - 1)] else []) ++ gaps (interval.2 + 1) rest

def complement (set : Intervals) : Intervals := gaps 0 (normal (surrogates :: set))

def meet (a b : Intervals) : Intervals := complement (complement a ++ complement b)

def minus (a b : Intervals) : Intervals := meet a (complement b)

def apart (a b : Intervals) : Intervals := minus a b ++ minus b a

/-- Characters that differ from the one that stands for their case class, each with that one. -/
def foldPairs : List (Nat × Nat) :=
  foldRules.flatMap fun rule =>
    (List.range ((rule.last - rule.first) / rule.step + 1)).map fun i =>
      (rule.first + i * rule.step, rule.move (rule.first + i * rule.step))

def foldCase (set : Intervals) : Intervals :=
  let images := foldPairs.filterMap fun (code, folded) =>
    if set.contains code then some (folded, folded) else none
  let folded := normal (set ++ images)
  let sources := foldPairs.filterMap fun (code, image) =>
    if folded.contains image then some (code, code) else none
  normal (folded ++ sources)

def isAscii (set : Intervals) : Bool := set.all fun interval => interval.2 < 128

end LogSieve.Text.Intervals
