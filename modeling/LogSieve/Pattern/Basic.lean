import LogSieve.Pattern.Property

/-! Patterns and what they find. A pattern moves marks along the places of a text: from each marked
place it reaches the places where something that it describes can end. A text matches when marks on
all its places do not vanish. -/

namespace LogSieve

open Text

structure Place where
  before : Option Char
  after : Option Char

def placesAfter (before : Option Char) : List Char → List Place
  | [] => [⟨before, none⟩]
  | c :: rest => ⟨before, some c⟩ :: placesAfter (some c) rest

def places (text : List Char) : List Place := placesAfter none text

inductive Edge where
  | either
  | neither
  | front
  | back
  | halfFront
  | halfBack
  deriving DecidableEq, Repr

/-- Conditions on a place. With `returns`, a carriage return ends a line as well. -/
inductive Look where
  | textStart
  | textEnd
  | lineStart (returns : Bool)
  | lineEnd (returns : Bool)
  | word (ascii : Bool) (edge : Edge)
  deriving DecidableEq, Repr

def isAsciiWord (c : Char) : Bool := c.isAlphanum || c = '_'

def inWord (ascii : Bool) : Option Char → Bool
  | none => false
  | some c => if ascii then isAsciiWord c else Intervals.holds Pattern.wordChars c

def Edge.holds (before after : Bool) : Edge → Bool
  | .either => before != after
  | .neither => before == after
  | .front => !before && after
  | .back => before && !after
  | .halfFront => !before
  | .halfBack => !after

def Look.holds (place : Place) : Look → Bool
  | textStart => place.before.isNone
  | textEnd => place.after.isNone
  | lineStart false => place.before.isNone || place.before == some '\n'
  | lineEnd false => place.after.isNone || place.after == some '\n'
  | lineStart true =>
    place.before.isNone || place.before == some '\n' ||
      (place.before == some '\r' && place.after != some '\n')
  | lineEnd true =>
    place.after.isNone || place.after == some '\r' ||
      (place.after == some '\n' && place.before != some '\r')
  | word ascii edge => edge.holds (inWord ascii place.before) (inWord ascii place.after)

inductive Pattern where
  | blank
  | chars (set : Intervals)
  | look (condition : Look)
  | group (captures : Bool) (inner : Pattern)
  | again (inner : Pattern) (least : Nat) (most : Option Nat)
  | sequence (parts : List Pattern)
  | choice (parts : List Pattern)
  deriving Inhabited

namespace Pattern

abbrev Marks := List Bool

def Marks.join (a b : Marks) : Marks := List.zipWith (· || ·) a b

def Marks.isEmpty (marks : Marks) : Bool := marks.all fun mark => !mark

def advance (set : Intervals) (places : List Place) (marks : Marks) : Marks :=
  false :: (List.zipWith (fun (place : Place) mark =>
    mark && place.after.any fun c => set.holds c) places marks).dropLast

def stay (condition : Look) (places : List Place) (marks : Marks) : Marks :=
  List.zipWith (fun place mark => mark && condition.holds place) places marks

def steps (move : Marks → Marks) : Nat → Marks → Marks
  | 0, marks => marks
  | count + 1, marks =>
    let moved := move marks
    if moved == marks then marks else steps move count moved

/-- Where marks stand after at most that many steps; only places not seen before go on. -/
def reach (move : Marks → Marks) : Nat → Marks → Marks → Marks
  | 0, seen, _ => seen
  | count + 1, seen, fresh =>
    let moved := List.zipWith (fun mark old => mark && !old) (move fresh) seen
    if Marks.isEmpty moved then seen else reach move count (Marks.join seen moved) moved

mutual

def ends (places : List Place) : Pattern → Marks → Marks
  | blank, marks => marks
  | chars set, marks => advance set places marks
  | look condition, marks => stay condition places marks
  | group _ inner, marks => ends places inner marks
  | again inner least most, marks =>
    let start := steps (ends places inner) least marks
    let more := match most with
      | some most => min (most - least) places.length
      | none => places.length
    reach (ends places inner) more start start
  | sequence parts, marks => endsOfAll places parts marks
  | choice parts, marks => endsOfAny places parts marks

def endsOfAll (places : List Place) : List Pattern → Marks → Marks
  | [], marks => marks
  | part :: parts, marks => endsOfAll places parts (ends places part marks)

def endsOfAny (places : List Place) : List Pattern → Marks → Marks
  | [], marks => marks.map fun _ => false
  | part :: parts, marks => Marks.join (ends places part marks) (endsOfAny places parts marks)

end

/-- Whether the pattern describes some part of the text. -/
def finds (pattern : Pattern) (text : String) : Bool :=
  let places := places text.toList
  !Marks.isEmpty (ends places pattern (places.map fun _ => true))

end Pattern

end LogSieve
