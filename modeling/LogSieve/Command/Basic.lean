import LogSieve.Criterion
import LogSieve.Record

/-! What can be asked for on a command line. -/

namespace LogSieve

inductive Format where
  | text
  | json
  deriving DecidableEq, Repr

namespace Format

def all : List Format := [text, json]

def name : Format → String
  | text => "text"
  | json => "json"

def line : Format → Record → String
  | text, record => record.shown
  | json, record => record.toJson.compact

end Format

inductive CriteriaSource where
  | given (criteria : List Criterion)
  | saved (name : String)

inductive Command where
  | fields
  | operators (field : String)
  | validate (criteria : List Criterion)
  | apply (input : String) (source : CriteriaSource) (format : Format) (explained : Bool)
  | save (name : String) (criteria : List Criterion)
  | describe (name : String)
  | list
  | delete (name : String)
  | exportTo (name : String) (output : Option String)
  | importFrom (file : String)

structure Invocation where
  settings : Option String
  directory : Option String
  caseSensitive : Bool
  verbosity : Nat
  command : Command

end LogSieve
