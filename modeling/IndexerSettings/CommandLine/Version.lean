import IndexerSettings.CommandLine.Arguments
import IndexerSettings.CommandLine.Loading
import IndexerSettings.CommandLine.Table
import IndexerSettings.Validation.Rule

/-!
# The command `version`

Tells which program this is and, if asked, what it was built for and what it
knows about settings.
-/

namespace IndexerSettings

/-- The program: its name and version, and how it was built. -/
structure Program where
  name : String
  version : String
  target : String
  profile : String
  revision : String
  deriving DecidableEq, Repr

/-- This program. -/
def Program.current : Program :=
  ⟨"indexcfg", "0.1.0", "x86_64-unknown-linux-gnu", "release", "unknown"⟩

/-- The name and version on one line. -/
def Program.line (p : Program) : String := p.name ++ " " ++ p.version

/-- What is told of the program at length. -/
structure VersionReport where
  program : Program
  scopes : List String
  keyCount : Nat
  rules : List String
  deriving DecidableEq, Repr

namespace VersionReport

def toJson (report : VersionReport) : Json := .object [
  ("schema_id", .ofString "indexcfg/cli/v1/version"),
  ("name", .ofString report.program.name),
  ("version", .ofString report.program.version),
  ("target", .ofString report.program.target),
  ("profile", .ofString report.program.profile),
  ("git_hash", .ofString report.program.revision),
  ("sections", .ofStrings report.scopes),
  ("key_count", .ofCount report.keyCount),
  ("validation_rules", .ofStrings report.rules)]

def rows (report : VersionReport) : List (String × String) := [
  ("name", report.program.name),
  ("version", report.program.version),
  ("target", report.program.target),
  ("profile", report.program.profile),
  ("git_hash", report.program.revision),
  ("sections", ",".intercalate report.scopes),
  ("keys", toString report.keyCount),
  ("validation_rules", ",".intercalate report.rules)]

/-- The lines of the report in some form. -/
def lines (report : VersionReport) : OutputFormat → List String
  | .json => [report.toJson.text]
  | .table =>
    Table.lines ["FIELD", "VALUE"] (report.rows.map fun (name, value) => [name, value])
  | .pretty | .raw => report.rows.map fun (name, value) => name ++ ": " ++ value

end VersionReport

/-- The report of the command. -/
def Session.describeProgram : Session VersionReport := do
  let registry ← openRegistry
  return ⟨.current, registry.scopes, registry.validKeys.size, Rule.all.map Rule.name⟩

end IndexerSettings
