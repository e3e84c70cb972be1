/-! Findings of a check: errors, each of which makes the whole invalid, and warnings. -/

namespace LogSieve

structure Findings where
  valid : Bool
  errors : List String
  warnings : List String
  deriving DecidableEq, Repr

namespace Findings

def clean : Findings := ⟨true, [], []⟩

def unchecked : Findings := ⟨false, [], []⟩

def addError (findings : Findings) (error : String) : Findings :=
  { findings with valid := false, errors := findings.errors ++ [error] }

def addWarning (findings : Findings) (warning : String) : Findings :=
  { findings with warnings := findings.warnings ++ [warning] }

def merge (first second : Findings) : Findings :=
  ⟨first.valid && second.valid, first.errors ++ second.errors, first.warnings ++ second.warnings⟩

def ofErrors (errors : List String) : Findings := errors.foldl addError clean

end Findings

end LogSieve
