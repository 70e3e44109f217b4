import IndexerSettings.CommandLine.Arguments
import IndexerSettings.CommandLine.Loading
import IndexerSettings.CommandLine.Table

/-!
# The command `check-keys`

Reports the keys that a file supplies and no field has.  They are no failure:
whatever the file says of other keys, the command succeeds.
-/

namespace IndexerSettings

def Log.keyUnknown (key : String) : Log.Event :=
  ⟨.warn, "indexcfg::cmd::check_keys", "unknown config key", [("key", .plain key)]⟩

/-- What is shown of the keys in a file. -/
structure DriftReport where
  path : String
  /-- How many keys the file supplies. -/
  supplied : Nat
  unknownKeys : List String
  deriving DecidableEq, Repr

namespace DriftReport

def toJson (report : DriftReport) : Json := .object [
  ("schema_id", .ofString "indexcfg/cli/v1/drift-report"),
  ("source", .ofString report.path),
  ("supplied", .ofCount report.supplied),
  ("superfluous_keys", .ofStrings report.unknownKeys)]

/-- The lines of the report in some form. -/
def lines (report : DriftReport) : OutputFormat → List String
  | .json => [report.toJson.text]
  | .table =>
    if report.unknownKeys.isEmpty then ["no superfluous keys in " ++ report.path]
    else Table.lines ["UNKNOWN KEY"] (report.unknownKeys.map ([·]))
  | .pretty =>
    (report.path ++ ": " ++ toString report.supplied ++ " keys supplied, "
        ++ toString report.unknownKeys.length ++ " unknown")
      :: report.unknownKeys.map ("  " ++ ·)
  | .raw => report.unknownKeys

end DriftReport

/-- The report of the command on a file. -/
def Session.checkKeys (fs : FileSystem) (path : String) : Session DriftReport := do
  let registry ← openRegistry
  let source ← readSource fs path
  let supplied := source.suppliedKeys
  let unknown := registry.unknownKeys supplied
  log (unknown.map Log.keyUnknown)
  return ⟨path, supplied.length, unknown⟩

end IndexerSettings
