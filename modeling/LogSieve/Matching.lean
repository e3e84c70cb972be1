import LogSieve.Pattern.Reader

/-! How texts are compared. Patterns are made by somebody else: all that is asked of a maker is that
it gives a way to tell whether a text holds the pattern, or the reason why there is none. -/

namespace LogSieve

class PatternMaker where
  make (ignoreCase : Bool) (pattern : String) : Except String (String → Bool)

instance : PatternMaker where
  make ignoreCase pattern := (Pattern.ofText ignoreCase pattern).map Pattern.finds

structure Matching where
  caseSensitive : Bool
  [patterns : PatternMaker]

end LogSieve
