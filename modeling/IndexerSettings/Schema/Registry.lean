import IndexerSettings.Schema.Section
import IndexerSettings.Schema.KeySet

/-!
# Registries of sections

The sections of a program, in the order of their registration.  No two have
the same scope, and no section has two fields with the same key.
-/

namespace IndexerSettings

/-- Why a section is not registered. -/
inductive SchemaError
  /-- It has no scope. -/
  | missingScope (name : String)
  /-- Its scope is that of a section registered before. -/
  | duplicateScope (scope existing : String)
  /-- Two of its fields have the same key. -/
  | duplicateKey (name key : String)
  deriving DecidableEq, Repr

def SchemaError.message : SchemaError → String
  | missingScope name =>
    "section " ++ name
      ++ " has no prefix and cannot be registered at the top level"
  | duplicateScope scope existing =>
    "prefix " ++ scope ++ " is already used by section " ++ existing
  | duplicateKey name key =>
    "section " ++ name ++ " declares key " ++ key ++ " more than once"

/-- Refuses a section with a key that its fields repeat. -/
def Section.checkKeys (s : Section) : Except SchemaError Unit :=
  match s.repeatedKey? with
  | some key => .error (.duplicateKey s.name key)
  | none => .ok ()

/-- Sections by their scopes, in the order of registration. -/
structure Registry where
  entries : List (String × Section)
  scopeMatches : ∀ e ∈ entries, e.2.scope = some e.1
  distinct : (entries.map Prod.fst).Nodup
  uniqueKeys : ∀ e ∈ entries, e.2.keys.Nodup

/-- A field found by its flat key, with the section it belongs to. -/
structure FieldEntry where
  scope : String
  owner : Section
  field : Field

namespace Registry

def empty : Registry := ⟨[], nofun, .nil, nofun⟩

instance : Inhabited Registry := ⟨empty⟩

/-- The section registered under a scope. -/
def section? (r : Registry) (scope : String) : Option Section :=
  (r.entries.find? (·.1 == scope)).map Prod.snd

theorem not_mem_of_section?_eq_none {r : Registry} {scope : String}
    (h : r.section? scope = none) : scope ∉ r.entries.map Prod.fst := by
  simp only [section?, Option.map_eq_none_iff, List.find?_eq_none,
    beq_iff_eq] at h
  intro hmem
  obtain ⟨e, he, rfl⟩ := List.mem_map.mp hmem
  exact h e he rfl

/-- The registry with one more section at its end. -/
def push (r : Registry) (scope : String) (s : Section)
    (hscope : s.scope = some scope) (hnew : r.section? scope = none)
    (hkeys : s.keys.Nodup) : Registry where
  entries := r.entries ++ [(scope, s)]
  scopeMatches := by
    intro e he
    rcases List.mem_append.mp he with he | he
    · exact r.scopeMatches e he
    · obtain rfl := List.mem_singleton.mp he
      exact hscope
  distinct := by
    rw [List.map_append, List.map_singleton, List.nodup_append]
    refine ⟨r.distinct, List.pairwise_singleton .., fun a ha b hb => ?_⟩
    obtain rfl := List.mem_singleton.mp hb
    rintro rfl
    exact not_mem_of_section?_eq_none hnew ha
  uniqueKeys := by
    intro e he
    rcases List.mem_append.mp he with he | he
    · exact r.uniqueKeys e he
    · obtain rfl := List.mem_singleton.mp he
      exact hkeys

/-- Registers a section: it needs a scope, one that is not taken, and fields
with distinct keys. -/
def register (r : Registry) (s : Section) : Except SchemaError Registry :=
  match hscope : s.scope with
  | none => .error (.missingScope s.name)
  | some scope =>
    match hnew : r.section? scope with
    | some existing => .error (.duplicateScope scope existing.name)
    | none =>
      match hkeys : s.repeatedKey? with
      | some key => .error (.duplicateKey s.name key)
      | none =>
        .ok (r.push scope s hscope hnew (Section.repeatedKey?_eq_none_iff.mp hkeys))

/-- Registers sections one after the other, up to the first that is refused. -/
def ofSections (sections : List Section) : Except SchemaError Registry :=
  sections.foldlM register empty

/-- The scopes, in the order of registration. -/
def scopes (r : Registry) : List String := r.entries.map Prod.fst

/-- Every flat key, section by section. -/
def flatKeys (r : Registry) : List String :=
  r.entries.flatMap fun (scope, s) => s.keysUnder scope

/-- The set of all flat keys. -/
def validKeys (r : Registry) : KeySet := .ofList r.flatKeys

/-- The flat keys of the section under a scope, if there is one. -/
def sectionKeys (r : Registry) (scope : String) : List String :=
  ((r.section? scope).map (·.keysUnder scope)).getD []

/-- A text up to its first dot, and what stands behind that. -/
def splitKey? (key : String) : Option (String × String) :=
  let cs := key.toList
  match cs.dropWhile (· != '.') with
  | [] => none
  | _ :: rest => some (String.ofList (cs.takeWhile (· != '.')), String.ofList rest)

/-- The field that a flat key names.  The scope is what stands before the
first dot. -/
def field? (r : Registry) (key : String) : Option FieldEntry := do
  let (scope, declared) ← splitKey? key
  let owner ← r.section? scope
  let field ← owner.field? declared
  return ⟨scope, owner, field⟩

/-- The supplied keys that no section declares, ascending, each once. -/
def unknownKeys (r : Registry) (supplied : List String) : List String :=
  r.validKeys.missing supplied

end Registry

end IndexerSettings
