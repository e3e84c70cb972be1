import LogSieve.Command.Basic
import LogSieve.Command.Flags

/-! Reading command lines. Some flags can stand on every level; of the values of such a flag the
one on the deepest level counts. -/

namespace LogSieve.Command

structure Defaults where
  settings : Option String
  directory : Option String
  deriving Repr

def isPath (text : String) : Bool := !text.isEmpty

def isCriterion (text : String) : Bool := (Criterion.ofTerm text).isOk

def isFormat (text : String) : Bool := Format.all.any fun format => format.name = text

def anything : String → Bool := fun _ => true

def settingsFlag : Flag := ⟨"config", none, .value false isPath⟩

def directoryFlag : Flag := ⟨"store-dir", none, .value false isPath⟩

def caseFlag : Flag := ⟨"case-sensitive", none, .switch⟩

def verboseFlag : Flag := ⟨"verbose", some 'v', .count⟩

def commonFlags : List Flag :=
  [settingsFlag, directoryFlag, caseFlag, verboseFlag, ⟨"help", some 'h', .help⟩]

def criterionFlag : Flag := ⟨"criterion", some 'c', .value true isCriterion⟩

def inputFlag : Flag := ⟨"input", some 'i', .value false isPath⟩

def savedFlag : Flag := ⟨"saved", none, .value false anything⟩

def formatFlag : Flag := ⟨"format", some 'F', .value false isFormat⟩

def explainFlag : Flag := ⟨"explain", none, .switch⟩

def outputFlag : Flag := ⟨"output", some 'o', .value false isPath⟩

def configCommands : List String := ["save", "show", "list", "delete", "export", "import", "help"]

def commands : List String := ["fields", "operators", "validate", "apply", "config", "help"]

def top : Grammar := ⟨commonFlags ++ [⟨"version", some 'V', .version⟩], [], commands⟩

def below (flags : List Flag) (operands : List (String → Bool)) : Grammar :=
  ⟨commonFlags ++ flags, operands, []⟩

def configLevel : Grammar := ⟨commonFlags, [], configCommands⟩

def configGrammar? : String → Option Grammar
  | "save" => some (below [criterionFlag] [anything])
  | "show" => some (below [] [anything])
  | "list" => some (below [] [])
  | "delete" => some (below [] [anything])
  | "export" => some (below [outputFlag] [anything])
  | "import" => some (below [] [isPath])
  | _ => none

def grammar? : String → Option Grammar
  | "fields" => some (below [] [])
  | "operators" => some (below [] [anything])
  | "validate" => some (below [criterionFlag] [])
  | "apply" => some (below [inputFlag, criterionFlag, savedFlag, formatFlag, explainFlag] [])
  | "config" => some configLevel
  | _ => none

def isHelpTopic : List String → Bool
  | [] => true
  | ["help"] => true
  | ["config"] => true
  | ["config", name] => configCommands.contains name
  | [name] => commands.contains name
  | _ => false

def criteria (given : Given) : List Criterion :=
  (given.values "criterion").filterMap fun term => (Criterion.ofTerm term).toOption

def operand (given : Given) : Except Stop String :=
  match given.operands.head? with
  | some word => .ok word
  | none => .error .misuse

def someCriteria (given : Given) : Except Stop (List Criterion) :=
  if given.has "criterion" then .ok (criteria given) else .error .misuse

def criteriaSource (given : Given) : Except Stop CriteriaSource :=
  match given.value? "saved" with
  | some name => if given.has "criterion" then .error .misuse else .ok (.saved name)
  | none => do return .given (← someCriteria given)

def format (given : Given) : Format :=
  match given.value? "format" with
  | some name => (Format.all.find? fun format => format.name = name).getD .text
  | none => .text

def configCommand (name : String) (given : Given) : Except Stop Command :=
  match name with
  | "save" => do return .save (← operand given) (← someCriteria given)
  | "show" => do return .describe (← operand given)
  | "list" => .ok .list
  | "delete" => do return .delete (← operand given)
  | "export" => do return .exportTo (← operand given) (given.value? "output")
  | "import" => do return .importFrom (← operand given)
  | _ => .error .misuse

def command (name : String) (given : Given) : Except Stop Command :=
  match name with
  | "fields" => .ok .fields
  | "operators" => do return .operators (← operand given)
  | "validate" => do return .validate (← someCriteria given)
  | "apply" =>
    match given.value? "input" with
    | some input => do
      return .apply input (← criteriaSource given) (format given) (given.has "explain")
    | none => .error .misuse
  | _ => .error .misuse

def levels (words : List String) : Except Stop (Command × List Given) := do
  let first ← top.read words
  match first.command with
  | none => .error .misuse
  | some ("help", topic) => .error (if isHelpTopic topic then .help else .misuse)
  | some (name, words) =>
    match grammar? name with
    | none => .error .misuse
    | some grammar => do
      let second ← grammar.read words
      if name = "config" then
        match second.command with
        | none => .error .misuse
        | some ("help", topic) =>
            .error (if isHelpTopic ("config" :: topic) then .help else .misuse)
        | some (name, words) =>
          match configGrammar? name with
          | none => .error .misuse
          | some grammar => do
            let third ← grammar.read words
            return (← configCommand name third, [first, second, third])
      else return (← command name second, [first, second])

/-- The value of a flag on the deepest level that has it, else what takes its place. A path that
takes its place on any level must not be empty. -/
def settle (levels : List Given) (flag : String) (otherwise : Option String) :
    Except Stop (Option String) :=
  let found := levels.map (·.value? flag)
  if otherwise = some "" && found.contains none then .error .misuse
  else .ok ((found.foldl (fun outer inner => inner.or outer) none).or otherwise)

def countOf (levels : List Given) (flag : String) : Nat :=
  levels.foldl (fun outer level =>
    let inner := (level.values flag).length
    if inner = 0 then outer else inner) 0

def read (defaults : Defaults) (words : List String) : Except Stop Invocation := do
  let (command, levels) ← levels words
  return {
    settings := ← settle levels "config" defaults.settings
    directory := ← settle levels "store-dir" defaults.directory
    caseSensitive := levels.any (·.has "case-sensitive")
    verbosity := countOf levels "verbose"
    command }

def versionText : String := "log-filter 0.1.0\n"

def helpText : String :=
"Filter structured log records with validated, reorderable criteria

Usage: log-filter [OPTIONS] <COMMAND>

Commands:
  fields            List filterable fields with their value kinds and operators
  operators FIELD   List the operators available for one field
  validate          Validate criteria and report every error and warning
  apply             Stream JSON-lines records through a filter
  config            Manage saved filter configurations
  help              Print this message

Options on every level:
      --config FILE      Engine configuration file
      --store-dir DIR    Directory holding saved filter configurations
      --case-sensitive   Compare strings case-sensitively
  -v, --verbose          Increase log verbosity
  -h, --help             Print help
  -V, --version          Print version

validate:       -c, --criterion FIELD:OPERATOR:VALUE (repeatable)
apply:          -i, --input FILE, and --criterion or --saved NAME,
                -F, --format text|json, --explain
config save:    NAME and --criterion
config show:    NAME
config list
config delete:  NAME
config export:  NAME, -o, --output FILE
config import:  FILE
"

end LogSieve.Command
