import LogSieve.Text.Category
import LogSieve.Pattern.CharSet
import LogSieve.Pattern.Property.Age
import LogSieve.Pattern.Property.Binary
import LogSieve.Pattern.Property.Script
import LogSieve.Pattern.Property.ScriptExtension
import LogSieve.Pattern.Property.Segment

/-! Character properties by name. Names are compared without letter case, blanks, hyphens,
underscores and a leading "is". -/

namespace LogSieve.Pattern

open Text

def withoutIs : List Char → List Char
  | 'i' :: 's' :: rest => rest
  | name => name

def plainName (name : String) : String :=
  let lower := name.toList.map Char.toLower
  let kept := (withoutIs lower).filter fun c => !(c == ' ' || c == '_' || c == '-') && c.toNat < 128
  String.ofList (if kept == ['c'] && withoutIs lower != lower then ['i', 's', 'c'] else kept)

def categoryGroup? : String → Option (List String)
  | "l" | "letter" => some ["lu", "ll", "lt", "lm", "lo"]
  | "lc" | "casedletter" => some ["lu", "ll", "lt"]
  | "m" | "mark" | "combiningmark" => some ["mn", "mc", "me"]
  | "n" | "number" => some ["nd", "nl", "no"]
  | "p" | "punctuation" | "punct" => some ["pc", "pd", "ps", "pe", "pi", "pf", "po"]
  | "s" | "symbol" => some ["sm", "sc", "sk", "so"]
  | "z" | "separator" => some ["zs", "zl", "zp"]
  | "c" | "other" => some ["cc", "cf", "cn", "co"]
  | _ => none

def categoryNamed? : String → Option Intervals
  | "any" => some [(0, Intervals.lastCode)]
  | "ascii" => some [(0, 0x7F)]
  | "assigned" => some (category "cn").complement
  | name =>
    match categoryGroup? name with
    | some members => some (Intervals.normal (members.flatMap category))
    | none => category? name

def ageNamed? (name : String) : Option Intervals :=
  match ageRuns.findIdx? fun row => row.1.contains name with
  | some index =>
    some (Intervals.normal ((ageRuns.take (index + 1)).flatMap fun row => intervalsOf row.2))
  | none => none

def extensionNamed? (name : String) : Option Intervals :=
  (namedIntervals? scriptExtensionRuns name).or (namedIntervals? scriptRuns name)

/-- Names that could be of a binary property but mean a category. -/
def isCategoryFirst (name : String) : Bool := name == "cf" || name == "sc" || name == "lc"

def property? (name : String) : Option Intervals :=
  let name := plainName name
  let binary := if isCategoryFirst name then none else namedIntervals? binaryRuns name
  (binary.or (categoryNamed? name)).or (namedIntervals? scriptRuns name)

def propertyValue? (name value : String) : Option Intervals :=
  let value := plainName value
  match plainName name with
  | "gc" | "generalcategory" => categoryNamed? value
  | "sc" | "script" => namedIntervals? scriptRuns value
  | "scx" | "scriptextensions" => extensionNamed? value
  | "age" => ageNamed? value
  | "gcb" | "graphemeclusterbreak" => namedIntervals? graphemeRuns value
  | "wb" | "wordbreak" => namedIntervals? wordRuns value
  | "sb" | "sentencebreak" => namedIntervals? sentenceRuns value
  | _ => none

def digits : Intervals := category "nd"

def blanks : Intervals := (property? "whitespace").getD []

def wordChars : Intervals :=
  Intervals.normal (["alphabetic", "m", "nd", "pc", "joincontrol"].flatMap fun name =>
    (property? name).getD [])

end LogSieve.Pattern
