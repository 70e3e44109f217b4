import IndexerSettings.Source.Error
import IndexerSettings.Validation.Error

/-!
# Failures of a command

How a command ends: the code that its caller gets, and a message if it
failed.
-/

namespace IndexerSettings

/-- The ways for a command to end. -/
inductive ExitStatus
  | success
  | failure
  | permissionDenied
  | invalidData
  | usage
  | internal
  deriving DecidableEq, Repr

def ExitStatus.code : ExitStatus → Nat
  | success => 0
  | failure => 1
  | permissionDenied => 50
  | invalidData => 60
  | usage => 64
  | internal => 125

/-- A failed command: how it ends, and what it says. -/
structure Failure where
  status : ExitStatus
  message : String
  deriving DecidableEq, Repr

namespace Failure

/-- Missing files and refused access are told apart from all other errors. -/
def fileStatus : FileError → ExitStatus
  | .system 1 | .system 13 => .permissionDenied
  | .system 2 => .failure
  | _ => .internal

def ofFileError (context : String) (e : FileError) : Failure :=
  ⟨fileStatus e, context ++ ": " ++ e.message⟩

/-- Mistakes in overrides are the caller's, those in a document are the
document's. -/
def ofLoadError (context : String) (e : LoadError) : Failure :=
  match e with
  | .unreadable path error => ofFileError (context ++ " " ++ path) error
  | .malformedOverride .. | .unknownKey .. | .invalidOverride .. =>
    ⟨.usage, context ++ ": " ++ e.message⟩
  | .malformed .. | .mismatch .. | .notAnObject | .sectionNotObject .. =>
    ⟨.invalidData, context ++ ": " ++ e.message⟩

def ofValidationError (e : ValidationError) : Failure :=
  ⟨.invalidData, "config validation failed [" ++ e.kind ++ "]: " ++ e.message⟩

end Failure

end IndexerSettings
