import LogSieve.Text.Runs
import LogSieve.Text.CaseTable

/-! Small letters of a whole text. One capital can give two characters, and a sigma depends on its
neighbours: at the end of a word it takes its final form. -/

namespace LogSieve.Text

def lowerChar (c : Char) : List Char :=
  if c.toNat < 128 then [c.toLower]
  else if c = 'İ' then ['i', '\u0307']
  else match lowerRules.find? (·.covers c.toNat) with
    | some rule => [Char.ofNat (rule.move c.toNat)]
    | none => [c]

def isCased (c : Char) : Bool := Intervals.holds cased c

def isCaseIgnorable (c : Char) : Bool := Intervals.holds caseIgnorable c

def meetsCased (chars : List Char) : Bool :=
  match chars.dropWhile isCaseIgnorable with
  | c :: _ => isCased c
  | [] => false

/-- The small sigma of a word's end stands after a letter and before none. -/
def lowerSigma (before after : List Char) : Char :=
  if meetsCased before && !meetsCased after then 'ς' else 'σ'

/-- Small letters of `text`, where `before` holds what stands in front of it, last character first.
-/
def lowerFrom (before : List Char) : List Char → List Char
  | [] => []
  | c :: text =>
    (if c = 'Σ' then [lowerSigma before text] else lowerChar c) ++ lowerFrom (c :: before) text

def lowerChars (text : List Char) : List Char := lowerFrom [] text

def lowercase (text : String) : String := String.ofList (lowerChars text.toList)

def asciiUpper (text : List Char) : List Char := text.map Char.toUpper

end LogSieve.Text
