import LogSieve.Text.Blank
import LogSieve.Pattern.Basic
import LogSieve.Pattern.Fault

/-! What a backslash introduces, inside a set of characters or outside: a character, a set or a
condition. -/

namespace LogSieve.Pattern

open Text

structure Flags where
  ignoreCase : Bool
  multiLine : Bool
  dotAll : Bool
  unicode : Bool
  returns : Bool
  blanks : Bool

def Flags.initial (ignoreCase : Bool) : Flags := ⟨ignoreCase, false, false, true, false, false⟩

def dropComments : Bool → List Char → List Char
  | _, [] => []
  | true, c :: rest => dropComments (c != '\n') rest
  | false, c :: rest =>
    if isBlank c then dropComments false rest
    else if c = '#' then dropComments true rest
    else c :: rest

def Flags.skip (flags : Flags) (text : List Char) : List Char :=
  if flags.blanks then dropComments false text else text

/-- The characters up to the first one that is not wanted, without blanks and comments. -/
def gatherFrom (blanks : Bool) (wanted : Char → Bool) : Bool → List Char → List Char × List Char
  | _, [] => ([], [])
  | true, c :: rest => gatherFrom blanks wanted (c != '\n') rest
  | false, c :: rest =>
    if blanks && isBlank c then gatherFrom blanks wanted false rest
    else if blanks && c = '#' then gatherFrom blanks wanted true rest
    else if wanted c then
      let (found, rest) := gatherFrom blanks wanted false rest
      (c :: found, rest)
    else ([], c :: rest)

def Flags.gather (flags : Flags) (wanted : Char → Bool) (text : List Char) :
    List Char × List Char :=
  gatherFrom flags.blanks wanted false text

def asciiSet : Intervals := [(0, 0x7F)]

def Flags.fold (flags : Flags) (set : Intervals) : Intervals :=
  if !flags.ignoreCase then Intervals.normal set
  else if flags.unicode then Intervals.foldCase set
  else Intervals.meet (Intervals.foldCase set) asciiSet

/-- A set with its case classes, or what it leaves out. Octets beyond the basic alphabet are no
text. -/
def Flags.set (flags : Flags) (negated : Bool) (set : Intervals) : Except Fault Intervals :=
  let set := flags.fold set
  if flags.unicode then .ok (if negated then Intervals.complement set else set)
  else if !negated && set.isAscii then .ok set
  else .error .noText

inductive Atom where
  | letter (c : Char) (octet : Bool)
  | set (set : Intervals)
  | look (condition : Look)

def numberValue (digits : List Nat) : Nat := digits.foldl (fun n d => 16 * n + d) 0

def characterOf (octet : Bool) (digits : List Char) : Except Fault Atom :=
  match digits.mapM hexDigit? with
  | some digits =>
    let code := numberValue digits
    if digits.isEmpty then .error .numberEmpty
    else if code.isValidChar then .ok (.letter (Char.ofNat code) octet)
    else .error .numberNoCharacter
  | none => .error .numberBadDigit

def numberDigits (flags : Flags) : Nat → Scan (List Char)
  | 0, text => .ok ([], text)
  | _ + 1, [] => .error .escapeNotClosed
  | count + 1, c :: rest => do
    let (digits, rest) ← numberDigits flags count (flags.skip rest)
    return (c :: digits, rest)

def characterNumber (flags : Flags) (count : Nat) : Scan Atom := fun text =>
  match flags.skip text with
  | '{' :: rest =>
    match flags.gather (· != '}') rest with
    | (digits, _ :: rest) => do return (← characterOf false digits, flags.skip rest)
    | _ => .error .escapeNotClosed
  | rest => do
    let (digits, rest) ← numberDigits flags count rest
    return (← characterOf (count == 2) digits, rest)

def cutAt (mark : List Char) : List Char → Option (List Char × List Char)
  | [] => none
  | c :: rest =>
    if mark.isPrefixOf (c :: rest) then some ([], (c :: rest).drop mark.length)
    else (cutAt mark rest).map fun (front, back) => (c :: front, back)

/-- A property in braces: `name`, `name=value`, `name:value` or `name!=value`. -/
def namedProperty? (text : List Char) : Option (Intervals × Bool) :=
  let valued (parts : List Char × List Char) : Option Intervals :=
    propertyValue? (String.ofList parts.1) (String.ofList parts.2)
  match cutAt ['!', '='] text with
  | some parts => (valued parts).map (·, true)
  | none =>
    match (cutAt [':'] text).or (cutAt ['='] text) with
    | some parts => (valued parts).map (·, false)
    | none => (property? (String.ofList text)).map (·, false)

def propertySet (flags : Flags) (negated : Bool) (found : Option (Intervals × Bool)) :
    Except Fault Atom :=
  if !flags.unicode then .error .notBasic
  else match found with
    | some (set, other) => do return .set (← flags.set (negated != other) set)
    | none => .error .propertyUnknown

def propertyEscape (flags : Flags) (negated : Bool) : Scan Atom := fun text =>
  match flags.skip text with
  | [] => .error .escapeNotClosed
  | '{' :: rest =>
    match flags.gather (· != '}') rest with
    | (name, _ :: rest) => do return (← propertySet flags negated (namedProperty? name), rest)
    | _ => .error .escapeNotClosed
  | '\\' :: _ => .error .propertyBad
  | c :: rest => do
    let found := (property? (String.ofList [c])).map (·, false)
    return (← propertySet flags negated found, flags.skip rest)

def classEscape (flags : Flags) (unicodeSet ascii : Intervals) (negated : Bool) :
    Except Fault Atom :=
  if flags.unicode then
    .ok (.set (if negated then Intervals.complement unicodeSet else unicodeSet))
  else if negated then .error .noText
  else .ok (.set ascii)

def asciiDigits : Intervals := [(48, 57)]

def asciiBlanks : Intervals := [(9, 13), (32, 32)]

def asciiWords : Intervals := [(48, 57), (65, 90), (95, 95), (97, 122)]

/-- The name in braces that can follow a word condition. What begins otherwise is left to be read
as a repetition. -/
def edgeName (flags : Flags) : Scan (Option Edge) := fun text =>
  let isNameChar (c : Char) : Bool := c.isAlpha || c == '-'
  match text with
  | '{' :: rest =>
    match flags.skip rest with
    | [] => .error .edgeOrCountNotClosed
    | c :: rest =>
      if !isNameChar c then .ok (none, text)
      else
        match flags.gather isNameChar (c :: rest) with
        | (name, '}' :: rest) =>
          match String.ofList name with
          | "start" => .ok (some .front, rest)
          | "end" => .ok (some .back, rest)
          | "start-half" => .ok (some .halfFront, rest)
          | "end-half" => .ok (some .halfBack, rest)
          | _ => .error .edgeUnknown
        | _ => .error .edgeNotClosed
  | _ => .ok (none, text)

def isMeta (c : Char) : Bool := "\\.+*?()|[]\x7b\x7d^$#&-~".toList.contains c

def isEscapable (c : Char) : Bool :=
  isMeta c || (c.toNat < 128 && !c.isAlphanum && c != '<' && c != '>')

def escape (flags : Flags) : Scan Atom
  | [] => .error .escapeNotClosed
  | c :: rest =>
    let word (edge : Edge) : Atom := .look (.word (!flags.unicode) edge)
    let letter (code : Nat) : Except Fault (Atom × List Char) :=
      .ok (.letter (Char.ofNat code) false, rest)
    let alone (found : Except Fault Atom) : Except Fault (Atom × List Char) :=
      found.map (·, rest)
    match c with
    | 'x' => characterNumber flags 2 rest
    | 'u' => characterNumber flags 4 rest
    | 'U' => characterNumber flags 8 rest
    | 'p' => propertyEscape flags false rest
    | 'P' => propertyEscape flags true rest
    | 'd' => alone (classEscape flags digits asciiDigits false)
    | 'D' => alone (classEscape flags digits asciiDigits true)
    | 's' => alone (classEscape flags blanks asciiBlanks false)
    | 'S' => alone (classEscape flags blanks asciiBlanks true)
    | 'w' => alone (classEscape flags wordChars asciiWords false)
    | 'W' => alone (classEscape flags wordChars asciiWords true)
    | 'a' => letter 0x07
    | 'f' => letter 0x0C
    | 't' => letter 0x09
    | 'n' => letter 0x0A
    | 'r' => letter 0x0D
    | 'v' => letter 0x0B
    | 'A' => .ok (.look .textStart, rest)
    | 'z' => .ok (.look .textEnd, rest)
    | 'B' => .ok (word .neither, rest)
    | '<' => .ok (word .front, rest)
    | '>' => .ok (word .back, rest)
    | 'b' => do
      let (edge, rest) ← edgeName flags rest
      return (word (edge.getD .either), rest)
    | c =>
      if c.isDigit then .error .backReference
      else if isEscapable c then .ok (.letter c false, rest)
      else .error .escapeUnknown

end LogSieve.Pattern
