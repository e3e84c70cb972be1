/-! Why an operation on files fails. -/

namespace LogSieve.Files

inductive Fault where
  | system (code : Nat) (words : String)
  | noText
  | badPath
  deriving DecidableEq, Repr

namespace Fault

def missing : Fault := system 2 "No such file or directory"

def alreadyThere : Fault := system 17 "File exists"

def noDirectory : Fault := system 20 "Not a directory"

def directory : Fault := system 21 "Is a directory"

def longName : Fault := system 36 "File name too long"

def message : Fault → String
  | system code words => s!"{words} (os error {code})"
  | noText => "stream did not contain valid UTF-8"
  | badPath => "file name contained an unexpected NUL byte"

end Fault

end LogSieve.Files
