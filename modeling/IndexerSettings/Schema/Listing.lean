import IndexerSettings.Schema.Registry

/-!
# Listings of keys

One row for each field of a registry, for people to read.
-/

namespace IndexerSettings

/-- A flat key, the kind and help of its field, and the section that the field
is listed for: the registered one or one taken directly into it. -/
structure KeyRow where
  key : String
  kind : FieldKind
  origin : String
  help : String
  deriving DecidableEq, Repr

/-- The rows of some fields under a scope. -/
def KeyRow.ofFields (scope origin : String) (fields : List Field) : List KeyRow :=
  fields.map fun f => ⟨flatKey scope f.key, f.kind, origin, f.help⟩

/-- The rows of a section: its own fields, then section by section the fields
of those taken into it. -/
def Section.rows (s : Section) (scope : String) : List KeyRow :=
  KeyRow.ofFields scope s.name s.fields
    ++ s.composed.flatMap fun part =>
      KeyRow.ofFields scope part.name part.allFields

/-- The rows of all sections, or of the one under the scope asked for. -/
def Registry.rows (r : Registry) (only : Option String) : List KeyRow :=
  (r.entries.filter fun (scope, _) => only.all (· == scope)).flatMap
    fun (scope, s) => s.rows scope

end IndexerSettings
