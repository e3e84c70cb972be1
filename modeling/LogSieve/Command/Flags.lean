/-! Flags on a command line. A level of the command line knows some flags and operands, and the
names of the commands that open the next level. A flag with a value takes the rest of its word,
what stands behind an equals sign, or the next word unless that looks like a flag itself. -/

namespace LogSieve.Command

inductive FlagKind where
  | switch
  | count
  | value (repeats : Bool) (check : String → Bool)
  | help
  | version

structure Flag where
  name : String
  letter : Option Char
  kind : FlagKind

structure Grammar where
  flags : List Flag
  operands : List (String → Bool)
  commands : List String

inductive Stop where
  | help
  | version
  | misuse
  deriving DecidableEq, Repr

structure Given where
  flags : List (String × String)
  operands : List String
  command : Option (String × List String)
  deriving Repr

namespace Given

def nothing : Given := ⟨[], [], none⟩

def has (given : Given) (name : String) : Bool := given.flags.any (·.1 = name)

def values (given : Given) (name : String) : List String :=
  (given.flags.filter (·.1 = name)).map (·.2)

def value? (given : Given) (name : String) : Option String := (given.values name).head?

def addFlag (given : Given) (name value : String) : Given :=
  { given with flags := given.flags ++ [(name, value)] }

end Given

inductive Shape where
  | plain
  /-- From here on all words are operands. -/
  | ends
  | named (name : String) (value : Option String)
  | letters (letters : List Char)
  deriving DecidableEq, Repr

def shape (word : String) : Shape :=
  match word.toList with
  | ['-', '-'] => .ends
  | '-' :: '-' :: rest =>
    let value := match rest.dropWhile (· != '=') with
      | '=' :: value => some (String.ofList value)
      | _ => none
    .named (String.ofList (rest.takeWhile (· != '='))) value
  | '-' :: letter :: rest => .letters (letter :: rest)
  | _ => .plain

namespace Grammar

def named? (grammar : Grammar) (name : String) : Option Flag :=
  grammar.flags.find? (·.name = name)

def lettered? (grammar : Grammar) (letter : Char) : Option Flag :=
  grammar.flags.find? (·.letter = some letter)

def takeFlag (flag : Flag) (given : Given) : Except Stop Given :=
  match flag.kind with
  | .switch => if given.has flag.name then .error .misuse else .ok (given.addFlag flag.name "")
  | .count => .ok (given.addFlag flag.name "")
  | .value _ _ => .error .misuse
  | .help => .error .help
  | .version => .error .version

def takeValue (flag : Flag) (value : String) (given : Given) : Except Stop Given :=
  match flag.kind with
  | .value repeats check =>
    if check value && (repeats || !given.has flag.name) then .ok (given.addFlag flag.name value)
    else .error .misuse
  | _ => .error .misuse

def wantsValue (flag : Flag) : Bool :=
  match flag.kind with
  | .value _ _ => true
  | _ => false

/-- Take the letters of a word; the last of them may leave a flag that waits for its value. -/
def takeLetters (grammar : Grammar) (given : Given) :
    List Char → Except Stop (Given × Option Flag)
  | [] => .ok (given, none)
  | letter :: rest =>
    match grammar.lettered? letter with
    | none => .error .misuse
    | some flag =>
      if wantsValue flag then
        match rest with
        | [] => .ok (given, some flag)
        | '=' :: value => do return (← takeValue flag (String.ofList value) given, none)
        | value => do return (← takeValue flag (String.ofList value) given, none)
      else do grammar.takeLetters (← takeFlag flag given) rest

def takeOperand (grammar : Grammar) (word : String) (given : Given) : Except Stop Given :=
  match grammar.operands[given.operands.length]? with
  | some check =>
    if check word then .ok { given with operands := given.operands ++ [word] } else .error .misuse
  | none => .error .misuse

/-- Read the words of a level up to a command. `waiting` is a flag whose value comes next, and
`ended` tells whether only operands follow. -/
def scan (grammar : Grammar) (waiting : Option Flag) (ended : Bool) (given : Given) :
    List String → Except Stop Given
  | [] => if waiting.isSome then .error .misuse else .ok given
  | word :: rest =>
    match waiting with
    | some flag =>
      if shape word = .plain then do
        grammar.scan none ended (← takeValue flag word given) rest
      else .error .misuse
    | none =>
      if ended then do grammar.scan none true (← grammar.takeOperand word given) rest
      else match shape word with
        | .ends => grammar.scan none true given rest
        | .named name value =>
          match grammar.named? name, value with
          | none, _ => .error .misuse
          | some flag, some value => do
            grammar.scan none false (← takeValue flag value given) rest
          | some flag, none =>
            if wantsValue flag then grammar.scan (some flag) false given rest
            else do grammar.scan none false (← takeFlag flag given) rest
        | .letters letters => do
          let (given, waiting) ← grammar.takeLetters given letters
          grammar.scan waiting false given rest
        | .plain =>
          if grammar.commands.contains word then .ok { given with command := some (word, rest) }
          else do grammar.scan none false (← grammar.takeOperand word given) rest

def read (grammar : Grammar) (words : List String) : Except Stop Given :=
  grammar.scan none false .nothing words

end Grammar

end LogSieve.Command
