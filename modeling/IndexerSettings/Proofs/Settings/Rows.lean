import Mathlib.Data.Set.List
import IndexerSettings.Proofs.Settings.Printing

/-!
# Rows of settings

What is shown of settings is their document, leaf by leaf: the names on the way to
a leaf, joined, and its value as a text (`Settings.rows_eq_map_leaves`).  So there is
one row for each field (`Settings.mem_rows_iff`), and the rows stand in the order of
the sections, within a section in that of its keys (`Settings.exists_places`).
-/

namespace IndexerSettings

open Json (Member leavesOf leaves_of_isLeaf)

/-- Members that are leaves. -/
theorem Json.leavesOf_of_isLeaf {members : List Member} (h : ∀ m ∈ members, m.2.IsLeaf) :
    leavesOf members = members.map fun m => ([m.1], m.2) := by
  induction members with
  | nil => rfl
  | cons m rest ih =>
      obtain ⟨hm, hrest⟩ := List.forall_mem_cons.mp h
      obtain ⟨k, j⟩ := m
      rw [leavesOf, leaves_of_isLeaf hm, ih hrest]
      rfl

namespace Settings

variable {s : Settings} {row : String × String}

/-- The row of a leaf. -/
def rowOf (leaf : List String × Json) : String × String :=
  (".".intercalate leaf.1, plainText leaf.2)

/-- The rows of objects with nothing but leaves in them. -/
theorem flatMap_sectionRows {members : List Member}
    (h : ∀ m ∈ members, ∃ fields, m.2 = .object fields ∧ ∀ n ∈ fields, n.2.IsLeaf) :
    members.flatMap sectionRows = (leavesOf members).map rowOf := by
  induction members with
  | nil => rfl
  | cons m rest ih =>
      obtain ⟨⟨fields, hfields, hleaves⟩, hrest⟩ := List.forall_mem_cons.mp h
      obtain ⟨scope, _⟩ := m
      obtain rfl := hfields
      have hobject : Json.leaves (.object fields) = leavesOf fields := rfl
      rw [List.flatMap_cons, leavesOf, List.map_append, ih hrest, hobject,
        Json.leavesOf_of_isLeaf hleaves, List.map_map, List.map_map]
      rfl

theorem rows_eq_map_leaves (s : Settings) : s.rows = s.toDocument.leaves.map rowOf := by
  refine flatMap_sectionRows fun m hm => ?_
  obtain ⟨p, rfl⟩ := mem_members_toDocument hm
  refine ⟨_, rfl, fun n hn => ?_⟩
  obtain ⟨e, -, rfl⟩ := Part.mem_sorted_members hn
  exact e.2.isLeaf_toJson

theorem map_fst_rows (s : Settings) :
    s.rows.map Prod.fst = s.toDocument.leafPaths.map (".".intercalate ·) := by
  rw [rows_eq_map_leaves, ← Document.map_fst_leaves, List.map_map, List.map_map]
  rfl

theorem mem_rows_iff :
    row ∈ s.rows ↔ ∃ (p : Part) (f : Field) (v : FieldValue),
      f ∈ p.owner.allFields ∧ s.value? p.scope f.key = some v
      ∧ row = (flatKey p.scope f.key, plainText v.toJson) := by
  rw [rows_eq_map_leaves, List.mem_map]
  constructor
  · rintro ⟨leaf, hleaf, rfl⟩
    obtain ⟨p, f, v, hf, hv, hpath, hj⟩ := mem_leaves_toDocument.mp hleaf
    exact ⟨p, f, v, hf, hv, by rw [rowOf, hpath, hj]; rfl⟩
  · rintro ⟨p, f, v, hf, hv, rfl⟩
    exact ⟨_, mem_leaves_toDocument.mpr ⟨p, f, v, hf, hv, rfl, rfl⟩, rfl⟩

/-- The names on the way to a place in a document, a key in a section. -/
def placePath (place : String × String) : List String := [place.1, place.2]

theorem placePath_injective : Function.Injective placePath := by
  rintro ⟨scope, key⟩ ⟨scope', key'⟩ heq
  obtain ⟨rfl, heq⟩ := List.cons.inj heq
  obtain ⟨rfl, -⟩ := List.cons.inj heq
  rfl

/-- Every way to a leaf goes through two names. -/
theorem exists_map_placePath (s : Settings) : ∃ places : List (String × String),
    places.map placePath = s.toDocument.leafPaths := by
  refine (Set.ext_iff.mp (Set.range_list_map placePath) _).mpr fun path hpath => ?_
  obtain ⟨p, key, -, rfl⟩ := mem_leafPaths_toDocument.mp hpath
  exact ⟨(p.scope, key), rfl⟩

/-- The rows stand in the order of their places, a scope and a key each. -/
theorem exists_places (s : Settings) : ∃ places : List (String × String),
    s.rows.map Prod.fst = places.map (fun place => flatKey place.1 place.2)
    ∧ places.Pairwise (Prod.Lex (· < ·) (· < ·))
    ∧ ∀ scope key, (scope, key) ∈ places ↔ ∃ p : Part, p.scope = scope ∧ key ∈ p.owner.keys := by
  obtain ⟨places, hplaces⟩ := exists_map_placePath s
  refine ⟨places, ?_, ?_, fun scope key => ?_⟩
  · rw [map_fst_rows, ← hplaces, List.map_map]
    rfl
  · have hascending := s.toDocument.pairwise_leafPaths
    rw [← hplaces, List.pairwise_map] at hascending
    refine hascending.imp fun {place place'} hlt => ?_
    rw [Prod.lex_def]
    simpa [placePath, List.cons_lt_cons_iff] using hlt
  · rw [← List.mem_map_of_injective placePath_injective, hplaces, mem_leafPaths_toDocument]
    constructor
    · rintro ⟨p, key', hkey, heq⟩
      obtain ⟨rfl, rfl⟩ := Prod.mk.inj
        (placePath_injective (show placePath (scope, key) = placePath (p.scope, key') from heq))
      exact ⟨p, rfl, hkey⟩
    · rintro ⟨p, rfl, hkey⟩
      exact ⟨p, key, hkey, rfl⟩

end Settings

end IndexerSettings
