/-! What can go wrong when a filter is built or records pass through it. -/

namespace LogSieve

inductive FilterError where
  | unsupportedField (field : String)
  | unsupportedOperator (field operator : String)
  | invalidValue (field operator value reason : String)
  | invalidCriteria (errors : List String)
  | invalidStructure (reason : String)
  | invalidRecord (line : Nat) (reason : String)
  | cancelled
  deriving DecidableEq, Repr

namespace FilterError

def message : FilterError → String
  | unsupportedField field =>
    s!"Unsupported field: '{field}'. Valid fields are: " ++
      "Timestamp, Level, Message, Node, ProcessId, Username"
  | unsupportedOperator field operator =>
    s!"Operator '{operator}' is not supported for field '{field}'"
  | invalidValue field operator value reason =>
    s!"Invalid value {value} for {field} {operator}: {reason}"
  | invalidCriteria errors => "Invalid filter criteria: " ++ "; ".intercalate errors
  | invalidStructure reason => s!"Invalid filter structure: {reason}"
  | invalidRecord line reason => s!"Invalid record at line {line}: {reason}"
  | cancelled => "Filter operation was cancelled"

end FilterError

end LogSieve
