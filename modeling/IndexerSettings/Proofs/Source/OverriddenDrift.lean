import IndexerSettings.Proofs.Source.Drift
import IndexerSettings.Proofs.Source.InPlace

/-!
# Reported keys after overrides

An override puts a leaf where a field stands, and takes away the leaves of what
stood there before.  The key of the field is listed, so an override adds nothing
to the keys that are reported, and takes from them only those whose leaves are
all gone (`Source.mem_unknownKeys_override_iff`).
-/

namespace IndexerSettings

open Json (cons_mem_leafPathsOf_iff nil_notMem_leafPathsOf exists_object_of_cons_mem)

/-! ## Leaves below a field -/

namespace Document

variable {d d' : Document} {scope key name : String} {value : Json.Scalar}
  {path below : List String}

/-- The way to a leaf leads through an object that stands where a field does. -/
def Beneath (d : Document) (scope key : String) (path : List String) : Prop :=
  ∃ members, d.at? scope key = some (.object members)
    ∧ ∃ rest ∈ Json.leafPathsOf members, path = scope :: key :: rest

theorem cons_mem_leafPaths_iff :
    name :: below ∈ d.leafPaths ↔ ∃ j, d.get? name = some j ∧ below ∈ Json.leafPaths j :=
  cons_mem_leafPathsOf_iff d.ordered.1

/-- Below a name there are the leaves of the object that stands there. -/
theorem cons_mem_leafPaths_iff_of_fields? {fields : List Json.Member}
    (h : d.fields? scope = some fields) :
    scope :: below ∈ d.leafPaths ↔ below ∈ Json.leafPathsOf fields := by
  rw [cons_mem_leafPaths_iff]
  rcases fields?_eq_some_iff.mp h with ⟨hnone, rfl⟩ | hsome
  · simp [hnone, Json.leafPathsOf]
  · simp [hsome, Json.leafPaths]

theorem beneath_of_isPrefix (hpath : path ∈ d.leafPaths) (hunder : [scope, key] <+: path)
    (hne : path ≠ [scope, key]) : d.Beneath scope key path := by
  obtain ⟨below, rfl⟩ := hunder
  obtain ⟨j, hget, hfield⟩ := cons_mem_leafPaths_iff.mp hpath
  obtain ⟨fields, rfl, hfield⟩ := exists_object_of_cons_mem hfield
  have hfields : d.fields? scope = some fields := fields?_eq_some_iff.mpr (.inr hget)
  obtain ⟨j, hlookup, hbelow⟩ :=
    (cons_mem_leafPathsOf_iff (ordered_of_fields? hfields).1).mp hfield
  cases below with
  | nil => exact absurd rfl hne
  | cons third rest =>
      obtain ⟨members, rfl, hrest⟩ := exists_object_of_cons_mem hbelow
      exact ⟨members, (at?_of_get? hget key).trans hlookup, third :: rest, hrest, rfl⟩

/-- The leaves of a document changed in one place are the value put there, and
those that are not in that place. -/
theorem ChangedAt.mem_leafPaths_iff (h : d.ChangedAt scope key (.scalar value) d') :
    path ∈ d'.leafPaths ↔
      path = [scope, key] ∨ path ∈ d.leafPaths ∧ ¬[scope, key] <+: path := by
  obtain ⟨before, after, hbefore, hget, hlookup, hsame⟩ := h.fields
  have hafter : d'.fields? scope = some after := fields?_eq_some_iff.mpr (.inr hget)
  cases path with
  | nil =>
      have hnil : ∀ d : Document, [] ∉ d.leafPaths := fun d => nil_notMem_leafPathsOf d.members
      simp [hnil]
  | cons name below =>
      by_cases hname : name = scope
      · subst hname
        rw [cons_mem_leafPaths_iff_of_fields? hafter, cons_mem_leafPaths_iff_of_fields? hbefore]
        cases below with
        | nil => simp [nil_notMem_leafPathsOf]
        | cons field rest =>
            rw [cons_mem_leafPathsOf_iff (ordered_of_fields? hafter).1,
              cons_mem_leafPathsOf_iff (ordered_of_fields? hbefore).1]
            by_cases hfield : field = key
            · subst hfield
              simp [hlookup, Json.leafPaths]
            · simp [hsame field hfield, hfield, Ne.symm hfield]
      · rw [cons_mem_leafPaths_iff, cons_mem_leafPaths_iff, h.others name hname]
        simp [hname, Ne.symm hname]

end Document

/-! ## One override -/

theorem Registry.flatKey_mem_of_field? {r : Registry} {key : String} {entry : FieldEntry}
    (h : r.field? key = some entry) : key ∈ r.flatKeys := by
  rw [flatKeys_eq_map_declared]
  exact List.mem_map.mpr ⟨entry, mem_declared_of_field? h⟩

namespace Source

variable {s s' : Source} {r : Registry} {assignment k : String} {assignments : List String}
  {a : Assignment} {entry : FieldEntry} {value : Json.Scalar}

theorem mem_suppliedKeys_iff : k ∈ s.suppliedKeys ↔ k ∈ s.leafKeys ∨ k ∈ s.overridden := by
  rw [suppliedKeys, List.mem_append, List.mem_filter, decide_eq_true_eq]
  by_cases hk : k ∈ s.leafKeys
  · simp [hk]
  · simp [hk]

theorem mem_overridden_override_iff (hs' : s.override r assignment = .ok s')
    (h : s.Takes r assignment a entry value) :
    k ∈ s'.overridden ↔ k ∈ s.overridden ∨ k = a.key := by
  obtain ⟨d, -, hd⟩ := h.exists_override
  obtain rfl := Except.ok.inj (hs'.symm.trans hd)
  by_cases hmem : a.key ∈ s.overridden
  · simp only [if_pos hmem]
    exact ⟨.inl, fun hk => hk.elim id fun heq => heq ▸ hmem⟩
  · simp only [if_neg hmem, List.mem_append, List.mem_singleton]

/-- The leaves that an override leaves alone are those that are not beneath its
field. -/
theorem mem_leafKeys_override_iff (hs' : s.override r assignment = .ok s')
    (h : s.Takes r assignment a entry value) (hk : k ≠ a.key) :
    k ∈ s'.leafKeys ↔ ∃ path ∈ s.document.leafPaths, ".".intercalate path = k
      ∧ ¬s.document.Beneath entry.scope entry.field.key path := by
  have hfield : ∀ path, ".".intercalate path = k → path ≠ [entry.scope, entry.field.key] := by
    rintro path hpath rfl
    rw [intercalate_pair, ← (Registry.of_field?_eq_some h.field).1] at hpath
    exact hk hpath.symm
  rw [leafKeys, List.mem_map]
  simp only [(changedAt_of_override hs' h).mem_leafPaths_iff]
  constructor
  · rintro ⟨path, hpath | ⟨hpath, hunder⟩, hjoined⟩
    · exact absurd hpath (hfield path hjoined)
    · refine ⟨path, hpath, hjoined, ?_⟩
      rintro ⟨members, -, rest, -, rfl⟩
      exact hunder ⟨rest, rfl⟩
  · rintro ⟨path, hpath, hjoined, hbeneath⟩
    refine ⟨path, .inr ⟨hpath, fun hunder => hbeneath ?_⟩, hjoined⟩
    exact Document.beneath_of_isPrefix hpath hunder (hfield path hjoined)

/-- What an override does to the keys that are reported. -/
theorem mem_unknownKeys_override_iff (hs' : s.override r assignment = .ok s')
    (h : s.Takes r assignment a entry value) :
    k ∈ r.unknownKeys s'.suppliedKeys ↔
      k ∉ r.flatKeys
      ∧ (k ∈ s.overridden ∨ ∃ path ∈ s.document.leafPaths, ".".intercalate path = k
        ∧ ¬s.document.Beneath entry.scope entry.field.key path) := by
  rw [Registry.mem_unknownKeys, and_comm]
  refine and_congr_right fun hunlisted => ?_
  have hk : k ≠ a.key := by
    rintro rfl
    exact hunlisted (Registry.flatKey_mem_of_field? h.field)
  rw [mem_suppliedKeys_iff, mem_leafKeys_override_iff hs' h hk,
    mem_overridden_override_iff hs' h, or_iff_left hk, or_comm]

theorem unknownKeys_override_sublist (hs' : s.override r assignment = .ok s') :
    (r.unknownKeys s'.suppliedKeys).Sublist (r.unknownKeys s.suppliedKeys) := by
  obtain ⟨a, entry, value, h⟩ := takes_of_override hs'
  refine Registry.unknownKeys_sublist fun k hk => ?_
  obtain ⟨hunlisted, hk⟩ := (mem_unknownKeys_override_iff hs' h).mp hk
  refine Registry.mem_unknownKeys.mpr ⟨mem_suppliedKeys_iff.mpr ?_, hunlisted⟩
  rcases hk with hk | ⟨path, hpath, rfl, -⟩
  · exact .inr hk
  · exact .inl (List.mem_map_of_mem hpath)

/-- A key that is no longer reported is one of leaves that the override took
away. -/
theorem beneath_of_unknownKeys_override (hs' : s.override r assignment = .ok s')
    (h : s.Takes r assignment a entry value) (hk : k ∈ r.unknownKeys s.suppliedKeys)
    (hgone : k ∉ r.unknownKeys s'.suppliedKeys) :
    (∃ path ∈ s.document.leafPaths, ".".intercalate path = k)
    ∧ ∀ path ∈ s.document.leafPaths, ".".intercalate path = k →
      s.document.Beneath entry.scope entry.field.key path := by
  obtain ⟨hsupplied, hunlisted⟩ := Registry.mem_unknownKeys.mp hk
  have hnone := fun hkept => hgone ((mem_unknownKeys_override_iff hs' h).mpr ⟨hunlisted, hkept⟩)
  constructor
  · rcases mem_suppliedKeys_iff.mp hsupplied with hleaf | hoverridden
    · exact List.mem_map.mp hleaf
    · exact absurd (.inl hoverridden) hnone
  · intro path hpath hjoined
    by_contra hbeneath
    exact hnone (.inr ⟨path, hpath, hjoined, hbeneath⟩)

/-! ## Many -/

theorem unknownKeys_overrideAll_sublist (hs' : s.overrideAll r assignments = .ok s') :
    (r.unknownKeys s'.suppliedKeys).Sublist (r.unknownKeys s.suppliedKeys) := by
  induction assignments generalizing s with
  | nil =>
      obtain rfl := Except.ok.inj hs'
      exact .refl _
  | cons assignment rest ih =>
      obtain ⟨s₁, hs₁, hrest⟩ := overrideAll_cons_eq_ok_iff.mp hs'
      exact (ih hrest).trans (unknownKeys_override_sublist hs₁)

end Source

end IndexerSettings
