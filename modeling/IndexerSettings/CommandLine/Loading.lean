import IndexerSettings.CommandLine.Session
import IndexerSettings.Schema.Indexer
import IndexerSettings.Source.Basic

/-!
# Loading in a session

The events and failures of the registry and of sources, common to the
commands that need them.
-/

namespace IndexerSettings

/-- The event of a section that was registered. -/
def Log.sectionRegistered (scope : String) (s : Section) : Log.Event :=
  ⟨.debug, "indexcfg_schema::registry", "registered config section", [
    ("section", .quoted s.name), ("prefix", .quoted scope),
    ("fields", .count s.keys.length)]⟩

def Log.readingSource (path : String) : Log.Event :=
  ⟨.debug, "indexcfg_config::loader", "reading config source", [("path", .plain path)]⟩

def Log.overrideApplied (key : String) : Log.Event :=
  ⟨.debug, "indexcfg_config::loader", "applied config override", [
    ("key", .quoted key)]⟩

namespace Session

/-- The registry of the indexer. -/
def openRegistry : Session Registry :=
  ⟨Registry.indexer.entries.map fun (scope, s) => Log.sectionRegistered scope s,
    .ok .indexer⟩

/-- The source in a file. -/
def readSource (fs : FileSystem) (path : String) : Session Source := do
  log [Log.readingSource path]
  attempt (.ofLoadError "failed to load config") (Source.ofFile fs path)

/-- The source with overrides applied to it. -/
def applyOverrides (r : Registry) (s : Source) : List String → Session Source
  | [] => done s
  | assignment :: rest => do
    let s ← attempt (.ofLoadError "invalid --set") (s.override r assignment)
    log (((Assignment.ofText? assignment).map fun a => Log.overrideApplied a.key).toList)
    applyOverrides r s rest

end Session

end IndexerSettings
