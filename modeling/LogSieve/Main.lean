import LogSieve.Command.Reader
import LogSieve.Command.Run
import Std.Time.DateTime.Timestamp

/-! The program: commands carried out on the machine at hand. Reports go to standard error as they
come, and the output follows at the end. -/

namespace LogSieve

open Files Text

abbrev Running := ReaderT (List JournalRule) IO

namespace Running

def reason : IO.Error → UInt32 × String
  | .noFileOrDirectory _ code text | .interrupted _ code text | .alreadyExists _ code text
  | .invalidArgument _ code text | .permissionDenied _ code text
  | .resourceExhausted _ code text | .inappropriateType _ code text | .noSuchThing _ code text
  | .otherError code text | .resourceBusy code text | .resourceVanished code text
  | .unsupportedOperation code text | .hardwareFault code text
  | .unsatisfiedConstraints code text | .illegalOperation code text | .protocolError code text
  | .timeExpired code text => (code, text)
  | .unexpectedEof => (5, "Input/output error")
  | .userError text => (5, text)

def number (code : UInt32) : Nat :=
  if code.toNat < 0x80000000 then code.toNat else 0x100000000 - code.toNat

def fault (error : IO.Error) : Fault :=
  let (code, text) := reason error
  match number code with
  | 2 => .missing
  | 17 => .alreadyThere
  | 20 => .noDirectory
  | 21 => .directory
  | 36 => .longName
  | code => .system code text.capitalize

def attempt (action : IO α) : Running (Except Fault α) := fun _ => do
  match ← action.toBaseIO with
  | .ok value => return .ok value
  | .error error => return .error (fault error)

def now : IO Time.Instant := do
  let count := (← Std.Time.Timestamp.now).toNanosecondsSinceUnixEpoch.val
  return ⟨count / 1000000000, (count % 1000000000).toNat⟩

def isDirectory (path : String) : IO Bool := (⟨path, ""⟩ : IO.FS.DirEntry).root.isDir

def settle (path : String) : IO Unit := do
  match ← (IO.FS.createDir path).toBaseIO with
  | .ok () => return
  | .error error => if ← isDirectory path then return else throw error

def makeDirectories (start : String) : List String → IO Unit
  | [] => return
  | step :: above => do
    let path := (above.reverse ++ [step]).foldl Path.join start
    match ← (settle path).toBaseIO with
    | .ok () => return
    | .error error =>
      if fault error = .missing then
        makeDirectories start above
        settle path
      else throw error

def names (path : String) : IO (List String) := do
  let entries ← (⟨path, ""⟩ : IO.FS.DirEntry).root.readDir
  return entries.toList.map (·.fileName)

def isFile (path : String) : IO Bool := do
  match ← (IO.FS.Handle.mk path .read).toBaseIO with
  | .ok _ => return !(← isDirectory path)
  | .error _ => return false

def readInput : IO Octets := do
  let stream ← IO.getStdin
  let mut content := ByteArray.empty
  let mut more := true
  while more do
    let chunk ← stream.read 65536
    content := content ++ chunk
    more := !chunk.isEmpty
  return content.toList

end Running

instance : Host Running where
  read path := Running.attempt do return (← IO.FS.readBinFile path).toList
  write path content := Running.attempt (IO.FS.writeBinFile path ⟨content.toArray⟩)
  rename source target := Running.attempt (IO.FS.rename source target)
  remove path := Running.attempt (IO.FS.removeFile path)
  makeDirectories path := Running.attempt
    (Running.makeDirectories (if Path.isAbsolute path then "/" else "") (Path.steps path).reverse)
  names path := Running.attempt (Running.names path)
  isFile path := fun _ => Running.isFile path
  input := fun _ => Running.readInput
  report report := fun rules => do
    match Journal.line? rules (← Running.now) report with
    | some line => (← IO.getStderr).putStrLn line
    | none => return

def runProgram (words : List String) : IO UInt32 := do
  let defaults : Command.Defaults :=
    ⟨← IO.getEnv "LOG_FILTER_CONFIG", ← IO.getEnv "LOG_FILTER_STORE_DIR"⟩
  let out ← IO.getStdout
  match Command.read defaults words with
  | .error .version =>
    out.putStr Command.versionText
    return 0
  | .error .help =>
    out.putStr Command.helpText
    return 0
  | .error .misuse =>
    (← IO.getStderr).putStrLn "error: the command line cannot be understood; try '--help'"
    return 2
  | .ok invocation =>
    let home := (← IO.getEnv "HOME").filter fun path => !path.isEmpty
    let surroundings : Surroundings := ⟨← IO.getEnv "XDG_CONFIG_HOME", home⟩
    let rules := Journal.rules (← IO.getEnv "RUST_LOG") invocation.verbosity
    let now ← Running.now
    let work : Running (Nat × String) := do
      Command.finish (← Command.run surroundings now invocation)
    let (status, output) ← work rules
    out.putStr output
    out.flush
    return status.toUInt32

end LogSieve

def main (words : List String) : IO UInt32 := LogSieve.runProgram words
