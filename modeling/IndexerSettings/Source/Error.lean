import IndexerSettings.Files.Basic
import IndexerSettings.Json.SyntaxError
import IndexerSettings.Schema.Section
import IndexerSettings.Settings.Mismatch

/-!
# Why settings do not load

What can go wrong between a file and the settings it asks for, and the
wording.
-/

namespace IndexerSettings

/-- Why a source of settings, or an override, is not accepted. -/
inductive LoadError
  /-- The file is not read. -/
  | unreadable (path : String) (error : FileError)
  /-- The text is not JSON. -/
  | malformed (error : Json.SyntaxError)
  /-- A value does not fit where it stands. -/
  | mismatch (mismatch : Mismatch)
  /-- The document is no object. -/
  | notAnObject
  /-- A section to be written to is no object. -/
  | sectionNotObject (scope : String)
  /-- An override has no equals sign. -/
  | malformedOverride (assignment : String)
  /-- An override is for a key that no section declares. -/
  | unknownKey (key : String)
  /-- The value of an override is not of the kind of its field. -/
  | invalidOverride (key value : String) (expected : FieldKind)
  deriving DecidableEq

def LoadError.message : LoadError → String
  | unreadable path error =>
    "failed to read config " ++ path ++ ": " ++ error.message
  | malformed error => "failed to parse config: " ++ error.message
  | mismatch m => "failed to parse config: " ++ m.message
  | notAnObject => "config root must be a JSON object"
  | sectionNotObject scope =>
    "config section " ++ scope ++ " must be a JSON object"
  | malformedOverride assignment =>
    "override must look like key=value: " ++ assignment
  | unknownKey key => "unknown config key: " ++ key
  | invalidOverride key value expected =>
    "invalid value " ++ Text.quoted value ++ " for " ++ key ++ ": expected "
      ++ expected.name

end IndexerSettings
