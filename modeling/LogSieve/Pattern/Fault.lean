/-! Why a text is no pattern. -/

namespace LogSieve.Pattern

inductive Fault where
  | groupNotClosed
  | groupNotOpened
  | lookAround
  | nameEmpty
  | nameBad
  | nameRepeated
  | nameNotClosed
  | flagUnknown
  | flagRepeated
  | flagsNegatedTwice
  | flagsNegateNothing
  | flagsNotClosed
  | nothingToRepeat
  | countMissing
  | countTooLarge
  | countsReversed
  | countNotClosed
  | bracketNotClosed
  | rangeReversed
  | rangeOfSets
  | escapeUnknown
  | escapeNotClosed
  | escapeInBracket
  | edgeUnknown
  | edgeNotClosed
  | edgeOrCountNotClosed
  | backReference
  | numberEmpty
  | numberBadDigit
  | numberNoCharacter
  | propertyBad
  | propertyUnknown
  | notBasic
  | noText
  | tooDeep
  | tooHeavy
  deriving DecidableEq, Repr

def Fault.message : Fault → String
  | groupNotClosed => "unclosed group"
  | groupNotOpened => "unopened group"
  | lookAround => "look-around, including look-ahead and look-behind, is not supported"
  | nameEmpty => "empty capture group name"
  | nameBad => "invalid capture group character"
  | nameRepeated => "duplicate capture group name"
  | nameNotClosed => "unclosed capture group name"
  | flagUnknown => "unrecognized flag"
  | flagRepeated => "duplicate flag"
  | flagsNegatedTwice => "flag negation operator repeated"
  | flagsNegateNothing => "dangling flag negation operator"
  | flagsNotClosed => "expected flag but got end of regex"
  | nothingToRepeat => "repetition operator missing expression"
  | countMissing => "repetition quantifier expects a valid decimal"
  | countTooLarge => "decimal literal invalid"
  | countsReversed => "invalid repetition count range, the start must be <= the end"
  | countNotClosed => "unclosed counted repetition"
  | bracketNotClosed => "unclosed character class"
  | rangeReversed => "invalid character class range, the start must be <= the end"
  | rangeOfSets => "invalid range boundary, must be a literal"
  | escapeUnknown => "unrecognized escape sequence"
  | escapeNotClosed => "incomplete escape sequence, reached end of pattern prematurely"
  | escapeInBracket => "invalid escape sequence found in character class"
  | edgeUnknown => "unrecognized special word boundary assertion, valid choices are: " ++
      "start, end, start-half or end-half"
  | edgeNotClosed => "special word boundary assertion is either unclosed or " ++
      "contains an invalid character"
  | edgeOrCountNotClosed => "found either the beginning of a special word boundary or " ++
      "a bounded repetition on a \\b with an opening brace, but no closing brace"
  | backReference => "backreferences are not supported"
  | numberEmpty => "hexadecimal literal empty"
  | numberBadDigit => "invalid hexadecimal digit"
  | numberNoCharacter => "hexadecimal literal is not a Unicode scalar value"
  | propertyBad => "invalid Unicode character class"
  | propertyUnknown => "Unicode property not found"
  | notBasic => "Unicode not allowed here"
  | noText => "pattern can match invalid UTF-8"
  | tooDeep => "exceed the maximum number of nested parentheses/brackets (250)"
  | tooHeavy => "Compiled regex exceeds size limit of 1048576 bytes."

abbrev Scan (α : Type) := List Char → Except Fault (α × List Char)

end LogSieve.Pattern
