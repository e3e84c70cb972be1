import LogSieve.Text.Category
import LogSieve.Pattern.Bracket
import LogSieve.Pattern.Weight

/-! Reading patterns. The reader keeps the groups that are open, the innermost first, each with the
alternatives before the current one and the parts of the current one. Flags that are set on the way
hold to the end of their group. -/

namespace LogSieve.Pattern

open Text

/-- A part of a sequence and how deeply it is nested. Set flags are a part without a pattern. -/
structure Part where
  pattern : Option Pattern
  depth : Nat

structure Frame where
  captures : Bool
  outer : Flags
  choices : List Part
  parts : List Part

structure Reading where
  flags : Flags
  names : List (List Char)
  around : List Frame
  frame : Frame

def deepest (parts : List Part) : Nat := parts.foldl (fun depth part => max depth part.depth) 0

def sequenceOf : List Pattern → Pattern
  | [] => blank
  | [pattern] => pattern
  | patterns => sequence patterns

namespace Frame

def sequence (frame : Frame) : Part :=
  let depth := deepest frame.parts
  ⟨some (sequenceOf (frame.parts.reverse.filterMap (·.pattern))),
    if 2 ≤ frame.parts.length then depth + 1 else depth⟩

def whole (frame : Frame) : Part :=
  match frame.choices with
  | [] => frame.sequence
  | choices =>
    let all := (frame.sequence :: choices).reverse
    ⟨some (choice (all.filterMap (·.pattern))), deepest all + 1⟩

end Frame

namespace Reading

def initial (flags : Flags) : Reading := ⟨flags, [], [], ⟨false, flags, [], []⟩⟩

def push (reading : Reading) (part : Part) : Reading :=
  { reading with frame := { reading.frame with parts := part :: reading.frame.parts } }

def pushPattern (reading : Reading) (pattern : Pattern) : Reading := reading.push ⟨some pattern, 0⟩

def nextChoice (reading : Reading) : Reading :=
  let frame := reading.frame
  { reading with frame := { frame with choices := frame.sequence :: frame.choices, parts := [] } }

def openGroup (reading : Reading) (captures : Bool) (flags : Flags) : Reading :=
  { reading with
    flags := flags
    around := reading.frame :: reading.around
    frame := ⟨captures, reading.flags, [], []⟩ }

def closeGroup (reading : Reading) : Except Fault Reading :=
  match reading.around with
  | [] => .error .groupNotOpened
  | outer :: around =>
    let inner := reading.frame.whole
    let pattern := group reading.frame.captures (inner.pattern.getD blank)
    .ok (push { reading with flags := reading.frame.outer, around := around, frame := outer }
      ⟨some pattern, inner.depth + 1⟩)

def repeatLast (reading : Reading) (least : Nat) (most : Option Nat) : Except Fault Reading :=
  match reading.frame.parts with
  | ⟨some pattern, depth⟩ :: parts =>
    .ok (push { reading with frame := { reading.frame with parts := parts } }
      ⟨some (again pattern least most), depth + 1⟩)
  | _ => .error .nothingToRepeat

end Reading

def letterPattern (flags : Flags) (c : Char) (octet : Bool) : Except Fault Pattern :=
  let alone : Intervals := [(c.toNat, c.toNat)]
  if flags.unicode then .ok (chars (flags.fold alone))
  else if octet && 128 ≤ c.toNat then .error .noText
  else if c.toNat < 128 then .ok (chars (flags.fold alone))
  else .ok (chars alone)

def atomPattern (flags : Flags) : Atom → Except Fault Pattern
  | .letter c octet => letterPattern flags c octet
  | .set set => .ok (chars set)
  | .look condition => .ok (look condition)

def dot (flags : Flags) : Except Fault Pattern :=
  if !flags.unicode then .error .noText
  else if flags.dotAll then .ok (chars (Intervals.complement []))
  else if flags.returns then .ok (chars (Intervals.complement [(10, 10), (13, 13)]))
  else .ok (chars (Intervals.complement [(10, 10)]))

def startLook (flags : Flags) : Look :=
  if flags.multiLine then .lineStart flags.returns else .textStart

def endLook (flags : Flags) : Look :=
  if flags.multiLine then .lineEnd flags.returns else .textEnd

def setFlag (on : Bool) (flags : Flags) : Char → Option Flags
  | 'i' => some { flags with ignoreCase := on }
  | 'm' => some { flags with multiLine := on }
  | 's' => some { flags with dotAll := on }
  | 'u' => some { flags with unicode := on }
  | 'R' => some { flags with returns := on }
  | 'x' => some { flags with blanks := on }
  | 'U' => some flags
  | _ => none

def setFlags (on : Bool) : Flags → List Char → Option Flags
  | flags, [] => some flags
  | flags, c :: rest => (setFlag on flags c).bind fun flags => setFlags on flags rest

/-- Flags to set and, behind a hyphen, flags to clear. None stands twice. -/
def flagList (flags : Flags) (text : List Char) : Except Fault Flags :=
  let (on, off) := (cutAt ['-'] text).getD (text, [])
  let dangling := text.contains '-' && off.isEmpty
  if off.contains '-' then .error .flagsNegatedTwice
  else match (setFlags true flags on).bind fun flags => setFlags false flags off with
    | some found =>
      if dangling then .error .flagsNegateNothing
      else if (on ++ off).Nodup then .ok found
      else .error .flagRepeated
    | none => .error .flagUnknown

def isNameStart (c : Char) : Bool := c == '_' || isAlphabetic c
where
  isAlphabetic (c : Char) : Bool :=
    if c.toNat < 128 then c.isAlpha else Intervals.holds ((property? "alphabetic").getD []) c

def isNamePart (c : Char) : Bool :=
  isNameStart c || c == '.' || c == '[' || c == ']' ||
    (if c.toNat < 128 then c.isDigit else Intervals.holds ((property? "n").getD []) c)

def isName : List Char → Bool
  | [] => false
  | c :: rest => isNameStart c && rest.all isNamePart

def groupName (names : List (List Char)) : Scan (List Char) := fun text =>
  match cutAt ['>'] text with
  | some (name, rest) =>
    if name.isEmpty then .error .nameEmpty
    else if !isName name then .error .nameBad
    else if names.contains name then .error .nameRepeated
    else .ok (name, rest)
  | none => .error .nameNotClosed

def openGroup (reading : Reading) (text : List Char) : Except Fault (Reading × List Char) :=
  let named (rest : List Char) : Except Fault (Reading × List Char) := do
    let (name, rest) ← groupName reading.names rest
    return ({ reading with names := name :: reading.names }.openGroup true reading.flags, rest)
  match reading.flags.skip text with
  | '?' :: '=' :: _ | '?' :: '!' :: _ | '?' :: '<' :: '=' :: _ | '?' :: '<' :: '!' :: _ =>
    .error .lookAround
  | '?' :: 'P' :: '<' :: rest | '?' :: '<' :: rest => named rest
  | '?' :: rest =>
    let text := rest.takeWhile fun c => c != ':' && c != ')'
    match rest.dropWhile fun c => c != ':' && c != ')' with
    | ')' :: rest => do
      if text.isEmpty then throw .nothingToRepeat
      let flags ← flagList reading.flags text
      return ({ reading with flags := flags }.push ⟨none, 0⟩, rest)
    | _ :: rest => do
      let flags ← flagList reading.flags text
      return (reading.openGroup false flags, rest)
    | [] => .error .flagsNotClosed
  | rest => .ok (reading.openGroup true reading.flags, rest)

/-- A question mark after a repetition changes which match is preferred, not whether there is one.
-/
def dropLazy : List Char → List Char
  | '?' :: rest => rest
  | rest => rest

def decimal (flags : Flags) : Scan (Option Nat) := fun text =>
  let (digits, rest) := flags.gather Char.isDigit (text.dropWhile isBlank)
  let value := digits.foldl (fun n d => 10 * n + (d.toNat - 48)) 0
  if digits.isEmpty then .ok (none, rest.dropWhile isBlank)
  else if value < 0x100000000 then .ok (some value, flags.skip (rest.dropWhile isBlank))
  else .error .countTooLarge

def counts (flags : Flags) : Scan (Nat × Option Nat) := fun text => do
  let (least, rest) ← decimal flags (flags.skip text)
  let some least := least | throw .countMissing
  match rest with
  | '}' :: rest => return ((least, some least), dropLazy (flags.skip rest))
  | ',' :: rest =>
    match flags.skip rest with
    | '}' :: rest => return ((least, none), dropLazy (flags.skip rest))
    | rest => do
      let (most, rest) ← decimal flags rest
      match most, rest with
      | some most, '}' :: rest =>
        if least ≤ most then return ((least, some most), dropLazy (flags.skip rest))
        else throw .countsReversed
      | none, _ => throw .countMissing
      | some _, _ => throw .countNotClosed
  | _ => throw .countNotClosed

def step (reading : Reading) (c : Char) (rest : List Char) :
    Except Fault (Reading × List Char) := do
  let flags := reading.flags
  match c with
  | '(' => openGroup reading rest
  | ')' => return (← reading.closeGroup, rest)
  | '|' => return (reading.nextChoice, rest)
  | '[' => do
    let (nested, rest) ← bracket flags rest
    return (reading.push ⟨some (chars nested.set), nested.depth⟩, rest)
  | '?' => return (← reading.repeatLast 0 (some 1), dropLazy rest)
  | '*' => return (← reading.repeatLast 0 none, dropLazy rest)
  | '+' => return (← reading.repeatLast 1 none, dropLazy rest)
  | '{' => do
    let ((least, most), rest) ← counts flags rest
    return (← reading.repeatLast least most, rest)
  | '.' => return (reading.pushPattern (← dot flags), rest)
  | '^' => return (reading.pushPattern (look (startLook flags)), rest)
  | '$' => return (reading.pushPattern (look (endLook flags)), rest)
  | '\\' => do
    let (atom, rest) ← escape flags rest
    return (reading.pushPattern (← atomPattern flags atom), rest)
  | c => return (reading.pushPattern (← letterPattern flags c false), rest)

def readAll : Nat → Reading → List Char → Except Fault Reading
  | 0, reading, _ => .ok reading
  | steps + 1, reading, text =>
    match reading.flags.skip text with
    | [] => .ok reading
    | c :: rest =>
      match step reading c rest with
      | .ok (reading, rest) => readAll steps reading rest
      | .error fault => .error fault

def mostNested : Nat := 250

def ofChars (ignoreCase : Bool) (text : List Char) : Except Fault Pattern := do
  let reading ← readAll (text.length + 1) (.initial (.initial ignoreCase)) text
  if !reading.around.isEmpty then throw .groupNotClosed
  let whole := reading.frame.whole
  let pattern := whole.pattern.getD blank
  if mostNested < whole.depth then throw .tooDeep
  if heaviest < weight pattern + surroundings then throw .tooHeavy
  return pattern

def ofText (ignoreCase : Bool) (text : String) : Except String Pattern :=
  (ofChars ignoreCase text.toList).mapError Fault.message

end LogSieve.Pattern
