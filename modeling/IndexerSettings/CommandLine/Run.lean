import IndexerSettings.CommandLine.CheckKeys
import IndexerSettings.CommandLine.Keys
import IndexerSettings.CommandLine.Validate
import IndexerSettings.CommandLine.Version

/-!
# Running a command line

From arguments to what is written: the result of the command on standard
output, the log and then the failure, if there is one, on standard error.
-/

namespace IndexerSettings

/-- The lines that a command writes to standard output. -/
def Session.ofCommand (fs : FileSystem) (format : OutputFormat) :
    Command → Session (List String)
  | .validate path overrides => do
    return (← validateFile fs path overrides).lines format
  | .checkKeys path => do
    return (← checkKeys fs path).lines format
  | .keys scope => do
    return KeyRow.lines (← listKeys scope) format
  | .version extended =>
    if extended then do
      return (← describeProgram).lines format
    else done [Program.current.line]

/-- The file that a command reads, if it reads one. -/
def Command.readPath? : Command → Option String
  | validate path _ => some path
  | checkKeys path => some path
  | keys _ => none
  | version _ => none

/-- The file that a command looks for without reading it: that of event
filters, if the settings that it comes to check name one. -/
def Command.lookedUpPath? (fs : FileSystem) : Command → Option String
  | validate path overrides =>
    match (do (← (← Source.ofFile fs path).overrideAll .indexer overrides).toSettings) with
    | .ok settings => settings.base.filterPath?
    | .error _ => none
  | _ => none

/-- What a finished program leaves: its exit code and what it wrote. -/
structure Finished where
  code : Nat
  stdout : String
  stderr : String
  deriving DecidableEq, Repr

namespace Invocation

/-- Runs a command; `stamp` is the time that its log shows. -/
def run (i : Invocation) (fs : FileSystem) (stamp : String) : Finished :=
  let session := Session.ofCommand fs i.format i.command
  let log := Log.lines i.logFormat i.logLevel stamp session.events
  match session.result with
  | .ok lines => ⟨ExitStatus.success.code, Text.unlines lines, Text.unlines log⟩
  | .error f =>
    ⟨f.status.code, "", Text.unlines (log ++ ["error: " ++ f.message])⟩

end Invocation

/-- How the program is called. -/
def usageLines : List String := [
  "Indexer configuration checker",
  "",
  "Usage: indexcfg [OPTIONS] <COMMAND>",
  "",
  "Commands:",
  "  validate    Load, check and normalize an indexer config file",
  "  check-keys  Report keys in a config file that no field recognizes",
  "  keys        List every valid config key",
  "  version     Show version information",
  "  help        Print this message"]

namespace Request

/-- The exit code of a command line that is refused. -/
def refusedCode : Nat := 2

/-- The command that a command line asks for. -/
def asked? : Request → Option Command
  | run invocation => some invocation.command
  | _ => none

/-- Answers a command line. -/
def answer (request : Request) (fs : FileSystem) (stamp : String) : Finished :=
  match request with
  | refused => ⟨refusedCode, "", Text.unlines usageLines⟩
  | help => ⟨ExitStatus.success.code, Text.unlines usageLines, ""⟩
  | version => ⟨ExitStatus.success.code, Text.unlines [Program.current.line], ""⟩
  | run invocation => invocation.run fs stamp

end Request

end IndexerSettings
