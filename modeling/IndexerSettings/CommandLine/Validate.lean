import IndexerSettings.CommandLine.Arguments
import IndexerSettings.CommandLine.Loading
import IndexerSettings.CommandLine.Table
import IndexerSettings.Text.Basic
import IndexerSettings.Validation.Rule

/-!
# The command `validate`

Loads the settings in a file, warns of keys that nobody has, checks the
settings, and shows them as they are when completed, without the password.
-/

namespace IndexerSettings

namespace Log

def keyIgnored (key : String) : Event :=
  ⟨.warn, "indexcfg::cmd::validate", "ignoring unknown config key", [
    ("key", .plain key)]⟩

def rulePassed (r : Rule) : Event :=
  ⟨.debug, "indexcfg_config::validate", "config rule passed", [
    ("rule", .quoted r.name)]⟩

def ruleFailed (r : Rule) (e : ValidationError) : Event :=
  ⟨.debug, "indexcfg_config::validate", "config rule failed", [
    ("rule", .quoted r.name), ("kind", .quoted e.kind)]⟩

def portAdded (before after : String) : Event :=
  ⟨.debug, "indexcfg_config::validate", "added default port to base.api", [
    ("from", .plain before), ("to", .plain after)]⟩

def settingsValid (path : String) : Event :=
  ⟨.info, "indexcfg::cmd::validate", "config is valid", [
    ("path", .plain path), ("rules", .count Rule.all.length)]⟩

/-- The events of rules applied up to the first that is not kept. -/
def ofRules (fs : FileSystem) (s : Settings) : List Rule → List Event
  | [] => []
  | r :: rest =>
    let v := r.apply fs s
    (if v.settings.base.api = s.base.api then []
      else [portAdded s.base.api v.settings.base.api])
    ++ match v.outcome with
      | .ok _ => rulePassed r :: ofRules fs v.settings rest
      | .error e => [ruleFailed r e]

end Log

/-- What is shown of valid settings. -/
structure ValidReport where
  path : String
  unknownKeys : List String
  settings : Settings

namespace ValidReport

def toJson (report : ValidReport) : Json := .object [
  ("schema_id", .ofString "indexcfg/cli/v1/validate-report"),
  ("valid", .scalar (.bool true)),
  ("superfluous_keys", .ofStrings report.unknownKeys),
  ("config", report.settings.toJson)]

/-- The lines of the report in some form. -/
def lines (report : ValidReport) : OutputFormat → List String
  | .json => [report.toJson.text]
  | .table =>
    Table.lines ["KEY", "VALUE"]
      (report.settings.rows.map fun (key, value) => [key, value])
  | .pretty =>
    [report.path ++ ": valid"]
      ++ (if report.unknownKeys.isEmpty then []
        else ["  ignored keys: " ++ ", ".intercalate report.unknownKeys])
      ++ report.settings.rows.map fun (key, value) =>
        "  " ++ Text.padRight 32 key ++ " " ++ value
  | .raw => ["valid"]

end ValidReport

/-- Checks settings and completes them. -/
def Session.validate (fs : FileSystem) (s : Settings) : Session Settings :=
  ⟨Log.ofRules fs s Rule.all, (s.validate fs).mapError .ofValidationError⟩

/-- The report of the command on a file, with overrides applied to it. -/
def Session.validateFile (fs : FileSystem) (path : String) (overrides : List String) :
    Session ValidReport := do
  let registry ← openRegistry
  let source ← readSource fs path
  let source ← applyOverrides registry source overrides
  let unknown := registry.unknownKeys source.suppliedKeys
  log (unknown.map Log.keyIgnored)
  let settings ← attempt (.ofLoadError "failed to load config") source.toSettings
  let settings ← validate fs settings
  log [Log.settingsValid path]
  return ⟨path, unknown, settings.redacted⟩

end IndexerSettings
