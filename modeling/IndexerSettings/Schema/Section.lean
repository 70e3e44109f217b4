/-!
# Fields and sections

What the settings are called.  A section groups fields under a scope; it may
take in other sections, whose fields then count as its own and stand under
its scope.
-/

namespace IndexerSettings

/-- The kinds of values that a field takes. -/
inductive FieldKind
  | bool
  | int
  | uint
  | float
  | string
  deriving DecidableEq, Repr

/-- The name of a kind in listings and messages. -/
def FieldKind.name : FieldKind → String
  | bool => "bool"
  | int => "int"
  | uint => "uint"
  | float => "float"
  | string => "string"

/-- A field: its key, the kind of its value, and a line of help. -/
structure Field where
  key : String
  kind : FieldKind
  help : String
  deriving DecidableEq, Repr

/-- A section: its name, the scope that its keys stand under when it is
registered by itself, its own fields, and the sections taken into it. -/
structure Section where
  name : String
  scope : Option String
  fields : List Field
  composed : List Section
  deriving Inhabited

/-- A key under a scope, as one text. -/
def flatKey (scope key : String) : String := scope ++ "." ++ key

namespace Section

mutual

/-- All fields: its own, then those of each section taken into it. -/
def allFields : Section → List Field
  | ⟨_, _, fields, composed⟩ => fields ++ allFieldsOf composed
termination_by structural s => s

def allFieldsOf : List Section → List Field
  | [] => []
  | s :: rest => allFields s ++ allFieldsOf rest
termination_by structural composed => composed

end

/-- The keys of all fields. -/
def keys (s : Section) : List String := s.allFields.map Field.key

/-- The flat keys of all fields under a scope. -/
def keysUnder (s : Section) (scope : String) : List String :=
  s.keys.map (flatKey scope)

/-- The first field with a key. -/
def field? (s : Section) (key : String) : Option Field :=
  s.allFields.find? (·.key == key)

/-- The first name in a list that has been in it before, or is among `seen`. -/
def firstRepeated? (seen : List String) : List String → Option String
  | [] => none
  | k :: rest => if k ∈ seen then some k else firstRepeated? (k :: seen) rest

theorem firstRepeated?_eq_none_iff {seen names : List String} :
    firstRepeated? seen names = none ↔
      names.Nodup ∧ ∀ k ∈ names, k ∉ seen := by
  induction names generalizing seen with
  | nil => simp [firstRepeated?]
  | cons k rest ih =>
    rw [firstRepeated?]
    split
    · rename_i hk
      simp [hk]
    · rename_i hk
      rw [ih, List.nodup_cons]
      simp only [List.mem_cons, not_or, forall_eq_or_imp]
      constructor
      · rintro ⟨hnd, hrest⟩
        exact ⟨⟨fun hmem => (hrest k hmem).1 rfl, hnd⟩, hk,
          fun n hn => (hrest n hn).2⟩
      · rintro ⟨⟨hnot, hnd⟩, -, hrest⟩
        exact ⟨hnd, fun n hn => ⟨fun he => hnot (he ▸ hn), hrest n hn⟩⟩

/-- The first key that the fields of a section repeat. -/
def repeatedKey? (s : Section) : Option String := firstRepeated? [] s.keys

theorem repeatedKey?_eq_none_iff {s : Section} :
    s.repeatedKey? = none ↔ s.keys.Nodup := by
  simp [repeatedKey?, firstRepeated?_eq_none_iff]

end Section

end IndexerSettings
