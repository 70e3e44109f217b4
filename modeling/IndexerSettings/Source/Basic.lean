import IndexerSettings.Json.Reader
import IndexerSettings.Schema.Registry
import IndexerSettings.Settings.Reading
import IndexerSettings.Source.Error
import IndexerSettings.Source.Override

/-!
# Sources of settings

A document and the overrides put into it.  A source remembers which keys were
overridden, so that it can say which keys it supplies; the settings are read
from the document alone.
-/

namespace IndexerSettings

/-- A document, and the keys overridden in it in the order of their first
override. -/
structure Source where
  document : Document
  overridden : List String
  deriving DecidableEq

namespace Source

/-- A source that says nothing, so that every setting has its default. -/
def empty : Source := ⟨.empty, []⟩

instance : Inhabited Source := ⟨empty⟩

/-- A value as a source, if it is an object. -/
def ofJson (j : Json) : Except LoadError Source :=
  match Document.ofJson? j with
  | some d => .ok ⟨d, []⟩
  | none => .error .notAnObject

/-- The source that a text writes. -/
def ofText (s : String) : Except LoadError Source :=
  match Json.ofText s with
  | .ok j => ofJson j
  | .error e => .error (.malformed e)

/-- The source in a file. -/
def ofFile (fs : FileSystem) (path : String) : Except LoadError Source :=
  match fs.readText path with
  | .ok s => ofText s
  | .error e => .error (.unreadable path e)

/-- Puts the value of a key into the document. -/
def assign (s : Source) (r : Registry) (a : Assignment) :
    Except LoadError Source :=
  match r.field? a.key with
  | none => .error (.unknownKey a.key)
  | some entry =>
    match entry.field.kind.coerce? a.value with
    | none => .error (.invalidOverride a.key a.value entry.field.kind)
    | some value =>
      match s.document.put? entry.scope entry.field.key value with
      | none => .error (.sectionNotObject entry.scope)
      | some d =>
        .ok ⟨d,
          if a.key ∈ s.overridden then s.overridden else s.overridden ++ [a.key]⟩

/-- Applies an override, written `key=value`, where the key is a flat key. -/
def override (s : Source) (r : Registry) (assignment : String) :
    Except LoadError Source :=
  match Assignment.ofText? assignment with
  | none => .error (.malformedOverride assignment)
  | some a => s.assign r a

/-- Applies overrides, up to the first that is refused. -/
def overrideAll (s : Source) (r : Registry) (assignments : List String) :
    Except LoadError Source :=
  assignments.foldlM (fun s a => s.override r a) s

/-- The flat paths of the leaves of the document. -/
def leafKeys (s : Source) : List String :=
  s.document.leafPaths.map (".".intercalate ·)

/-- The keys that the source supplies: those of the leaves of its document,
then the overridden ones not among them. -/
def suppliedKeys (s : Source) : List String :=
  s.leafKeys ++ s.overridden.filter fun k => k ∉ s.leafKeys

/-- The settings that the source asks for. -/
def toSettings (s : Source) : Except LoadError Settings :=
  match Settings.ofDocument s.document with
  | .ok settings => .ok settings
  | .error m => .error (.mismatch m)

end Source

end IndexerSettings
