import IndexerSettings.CommandLine.Run
import Std.Time.Format

/-!
# The program

Reads the files that the command line asks about, and writes what it is
answered.
-/

namespace IndexerSettings.Program

/-- The number of a system error, which may come negated in 32 bits. -/
def errorNumber (code : UInt32) : Nat := code.toInt32.toInt.natAbs

/-- An error of input and output as one of a file; where it has no number it
counts as the general one. -/
def fileError : IO.Error → FileError
  | .noFileOrDirectory _ code _ | .interrupted _ code _ => .system (errorNumber code)
  | .alreadyExists _ code _ | .invalidArgument _ code _ | .permissionDenied _ code _
  | .resourceExhausted _ code _ | .inappropriateType _ code _
  | .noSuchThing _ code _ => .system (errorNumber code)
  | .otherError code _ | .resourceBusy code _ | .resourceVanished code _
  | .unsupportedOperation code _ | .hardwareFault code _
  | .unsatisfiedConstraints code _ | .illegalOperation code _
  | .protocolError code _ | .timeExpired code _ => .system (errorNumber code)
  | .unexpectedEof | .userError _ => .system 5

/-- Asks the system about a path. -/
def ask {α : Type} (path : String) (question : IO α) : IO (Except FileError α) := do
  if path.contains '\x00' then return .error .nulInPath
  match ← question.toBaseIO with
  | .ok answer => return .ok answer
  | .error e => return .error (fileError e)

/-- A file system that knows what a request asks about. -/
def observe (request : Request) : IO FileSystem := do
  let nowhere : FileSystem := ⟨fun _ => .error .notFound, fun _ => .error .notFound⟩
  let some command := request.asked? | return nowhere
  let some path := command.readPath? | return nowhere
  let content ← ask path (IO.FS.readBinFile path)
  let fs := { nowhere with content := fun _ => content }
  let some lookedUp := command.lookedUpPath? fs | return fs
  let status ← ask lookedUp (IO.FS.Handle.mk lookedUp .read)
  return { fs with status := fun _ => status.map fun _ => () }

/-- The time, as the log shows it. -/
def stamp : IO String := do
  let now ← Std.Time.Timestamp.now
  return Std.Time.Formats.iso8601.format (.ofTimestamp now .UTC)

/-- Answers a command line; the result is the exit code. -/
def run (args : List String) : IO UInt32 := do
  let request := Request.ofArguments (← IO.getEnv "INDEXCFG_LOG_LEVEL") args
  let finished := request.answer (← observe request) (← stamp)
  IO.print finished.stdout
  IO.eprint finished.stderr
  return UInt32.ofNat finished.code

end IndexerSettings.Program

def main (args : List String) : IO UInt32 := IndexerSettings.Program.run args
