import IndexerSettings.Json.Order

/-!
# Documents

A document is a JSON object in order: what a configuration file holds.  Its
leaves are the values that are no objects, reached from the root through
objects alone.
-/

namespace IndexerSettings.Json

mutual

/-- The names on the way to each leaf of a value, in the order of the text; an
object without members has none. -/
def leafPaths : Json → List (List String)
  | scalar _ => [[]]
  | array _ => [[]]
  | object members => leafPathsOf members
termination_by structural j => j

def leafPathsOf : List Member → List (List String)
  | [] => []
  | (k, j) :: rest => (leafPaths j).map (k :: ·) ++ leafPathsOf rest
termination_by structural members => members

end

end IndexerSettings.Json

namespace IndexerSettings

/-- A JSON object whose members ascend by name, at every depth. -/
structure Document where
  members : List Json.Member
  ordered : Json.Ordered (.object members)

namespace Document

open Json

/-- A document without members. -/
def empty : Document := ⟨[], .nil, trivial⟩

instance : Inhabited Document := ⟨empty⟩

instance : DecidableEq Document := fun a b =>
  decidable_of_iff (a.members = b.members)
    ⟨fun h => by cases a; cases b; simp_all, fun h => h ▸ rfl⟩

/-- The members of an object put in order, at every depth; of members with the
same name the last one is kept. -/
def ofMembers (members : List Member) : Document :=
  ⟨sortedMembers [] members, ordered_sortedMembers [] members ⟨.nil, trivial⟩⟩

/-- The document that a value is, if it is an object. -/
def ofJson? : Json → Option Document
  | object members => some (ofMembers members)
  | _ => none

def toJson (d : Document) : Json := object d.members

/-- The value of a member. -/
def get? (d : Document) (name : String) : Option Json := d.members.lookup name

/-- The members of the object under a name, which counts as empty where the
document has none; no members at all where the name has another value. -/
def fields? (d : Document) (name : String) : Option (List Member) :=
  match d.get? name with
  | none => some []
  | some (object fields) => some fields
  | some _ => none

theorem ordered_of_fields? {d : Document} {name : String} {fields : List Member}
    (h : d.fields? name = some fields) : Ordered (object fields) := by
  rw [fields?] at h
  split at h
  · obtain rfl := Option.some.inj h
    exact ⟨.nil, trivial⟩
  · rename_i hget
    obtain rfl := Option.some.inj h
    exact ordered_of_lookup d.ordered.2 hget
  · cases h

/-- The document with a scalar put under a field of one of its objects, in
place of what stood there.  An absent object is created; another value in its
place is not touched. -/
def put? (d : Document) (name field : String) (value : Scalar) : Option Document :=
  match h : d.fields? name with
  | none => none
  | some fields =>
    some ⟨insert name (object (insert field (scalar value) fields)) d.members,
      ordered_object_insert
        (ordered_object_insert trivial (ordered_of_fields? h))
        d.ordered⟩

/-- The names on the way to each leaf. -/
def leafPaths (d : Document) : List (List String) := leafPathsOf d.members

end Document

end IndexerSettings
