import IndexerSettings.CommandLine.Arguments
import IndexerSettings.CommandLine.Loading
import IndexerSettings.CommandLine.Table
import IndexerSettings.Schema.Listing
import IndexerSettings.Text.Basic

/-!
# The command `keys`

Lists the keys of all settings, or of one section.
-/

namespace IndexerSettings

def KeyRow.toJson (row : KeyRow) : Json := .object [
  ("key", .ofString row.key),
  ("kind", .ofString row.kind.name),
  ("section", .ofString row.origin),
  ("help", .ofString row.help)]

namespace KeyRow

def listJson (rows : List KeyRow) : Json := .object [
  ("schema_id", .ofString "indexcfg/cli/v1/keys"),
  ("keys", .array (rows.map toJson))]

/-- The lines of a listing in some form. -/
def lines (rows : List KeyRow) : OutputFormat → List String
  | .json => [(listJson rows).text]
  | .table =>
    Table.lines ["KEY", "KIND", "SECTION", "DESCRIPTION"]
      (rows.map fun row => [row.key, row.kind.name, row.origin, row.help])
  | .pretty =>
    rows.map fun row =>
      Text.padRight 36 row.key ++ " " ++ Text.padRight 7 row.kind.name ++ " " ++ row.help
  | .raw => rows.map (·.key)

end KeyRow

/-- The rows of the command; it fails if there is no section of that scope. -/
def Session.listKeys (scope : Option String) : Session (List KeyRow) := do
  let registry ← openRegistry
  match scope with
  | some s =>
    if (registry.section? s).isNone then fail ⟨.usage, "unknown section: " ++ s⟩
    else return registry.rows scope
  | none => return registry.rows scope

end IndexerSettings
