import LogSieve.Pattern.Escape

/-! Sets of characters in brackets: single characters, ranges, escapes, named sets of the basic
alphabet, nested brackets, and the three operations between sets. -/

namespace LogSieve.Pattern

open Text

def asciiNamed? : String → Option Intervals
  | "alnum" => some [(48, 57), (65, 90), (97, 122)]
  | "alpha" => some [(65, 90), (97, 122)]
  | "ascii" => some [(0, 127)]
  | "blank" => some [(9, 9), (32, 32)]
  | "cntrl" => some [(0, 31), (127, 127)]
  | "digit" => some [(48, 57)]
  | "graph" => some [(33, 126)]
  | "lower" => some [(97, 122)]
  | "print" => some [(32, 126)]
  | "punct" => some [(33, 47), (58, 64), (91, 96), (123, 126)]
  | "space" => some [(9, 13), (32, 32)]
  | "upper" => some [(65, 90)]
  | "word" => some [(48, 57), (65, 90), (95, 95), (97, 122)]
  | "xdigit" => some [(48, 57), (65, 70), (97, 102)]
  | _ => none

def asciiName? : List Char → Option ((Intervals × Bool) × List Char)
  | ':' :: rest =>
    let (negated, rest) := match rest with
      | '^' :: rest => (true, rest)
      | rest => (false, rest)
    match cutAt [':'] rest with
    | some (name, ']' :: rest) =>
      (asciiNamed? (String.ofList name)).map fun set => ((set, negated), rest)
    | _ => none
  | _ => none

inductive SetOperator where
  | meet
  | minus
  | apart

def SetOperator.apply : SetOperator → Intervals → Intervals → Intervals
  | meet => Intervals.meet
  | minus => Intervals.minus
  | apart => Intervals.apart

structure Nested where
  set : Intervals
  depth : Nat

/-- What has been read of a bracket: the operation that waits for its right side, and the union
that is being gathered. -/
structure Gathering where
  waiting : Option (SetOperator × Nested)
  set : Intervals
  count : Nat
  depth : Nat

namespace Gathering

def empty : Gathering := ⟨none, [], 0, 0⟩

def add (gathering : Gathering) (item : Nested) : Gathering :=
  { gathering with
    set := gathering.set ++ item.set
    count := gathering.count + 1
    depth := max gathering.depth item.depth }

/-- The set so far. Operations group from the left. -/
def close (flags : Flags) (gathering : Gathering) : Nested :=
  let depth := if 2 ≤ gathering.count then gathering.depth + 1 else gathering.depth
  match gathering.waiting with
  | none => ⟨gathering.set, depth⟩
  | some (operator, left) =>
    ⟨operator.apply (flags.fold left.set) (flags.fold gathering.set), max left.depth depth + 1⟩

def operate (flags : Flags) (gathering : Gathering) (operator : SetOperator) : Gathering :=
  { empty with waiting := some (operator, gathering.close flags) }

end Gathering

/-- The number of a character in a set. Without the whole alphabet only its basic part counts. -/
def letterCode (flags : Flags) : Atom → Except Fault Nat
  | .letter c octet =>
    if flags.unicode || c.toNat < 128 then .ok c.toNat
    else .error (if octet then .noText else .notBasic)
  | _ => .error .rangeOfSets

def itemAtom (flags : Flags) : Scan Atom
  | [] => .error .bracketNotClosed
  | '\\' :: rest => escape flags rest
  | c :: rest => .ok (.letter c false, rest)

/-- One item: a set, a character, or a range if a hyphen follows that is neither the last character
of the bracket nor the first of an operation. -/
def item (flags : Flags) : Scan Intervals := fun text => do
  let (first, text) ← itemAtom flags text
  let single : Except Fault Intervals := match first with
    | .set set => .ok set
    | .look _ => .error .escapeInBracket
    | letter => do
      let code ← letterCode flags letter
      return [(code, code)]
  match flags.skip text with
  | [] => .error .bracketNotClosed
  | '-' :: rest =>
    match flags.skip rest with
    | ']' :: _ | '-' :: _ => return (← single, '-' :: rest)
    | rest => do
      let (last, rest) ← itemAtom flags rest
      let low ← letterCode flags first
      let high ← letterCode flags last
      if low ≤ high then return ([(low, high)], rest) else .error .rangeReversed
  | rest => return (← single, rest)

def leadingHyphens (flags : Flags) : Nat → Gathering → List Char → Gathering × List Char
  | steps + 1, gathering, '-' :: rest =>
    leadingHyphens flags steps (gathering.add ⟨[(45, 45)], 0⟩) (flags.skip rest)
  | _, gathering, text => (gathering, text)

def openBracket (flags : Flags) : Scan (Bool × Gathering) := fun text =>
  let (negated, text) := match flags.skip text with
    | '^' :: rest => (true, flags.skip rest)
    | rest => (false, rest)
  let (gathering, text) := leadingHyphens flags text.length .empty text
  match text with
  | [] => .error .bracketNotClosed
  | ']' :: rest =>
    if gathering.count = 0 then
      .ok ((negated, gathering.add ⟨[(93, 93)], 0⟩), flags.skip rest)
    else .ok ((negated, gathering), text)
  | text => .ok ((negated, gathering), text)

def bracketItems (flags : Flags) : Nat → Gathering → Scan Nested
  | 0, _, _ => .error .bracketNotClosed
  | steps + 1, gathering, text =>
    match flags.skip text with
    | [] => .error .bracketNotClosed
    | ']' :: rest => .ok (gathering.close flags, rest)
    | '&' :: '&' :: rest => bracketItems flags steps (gathering.operate flags .meet) rest
    | '-' :: '-' :: rest => bracketItems flags steps (gathering.operate flags .minus) rest
    | '~' :: '~' :: rest => bracketItems flags steps (gathering.operate flags .apart) rest
    | '[' :: rest =>
      match asciiName? rest with
      | some ((set, negated), rest) => do
        let set ← flags.set negated set
        bracketItems flags steps (gathering.add ⟨set, 0⟩) rest
      | none => do
        let ((negated, inner), rest) ← openBracket flags rest
        let (nested, rest) ← bracketItems flags steps inner rest
        let set ← flags.set negated nested.set
        bracketItems flags steps (gathering.add ⟨set, nested.depth + 1⟩) rest
    | text => do
      let (set, rest) ← item flags text
      bracketItems flags steps (gathering.add ⟨set, 0⟩) rest

def bracket (flags : Flags) : Scan Nested := fun text => do
  let ((negated, gathering), rest) ← openBracket flags text
  let (nested, rest) ← bracketItems flags (rest.length + 1) gathering rest
  return (⟨← flags.set negated nested.set, nested.depth + 1⟩, rest)

end LogSieve.Pattern
