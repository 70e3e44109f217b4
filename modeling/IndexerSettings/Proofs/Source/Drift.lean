import IndexerSettings.Proofs.Json.Leaves
import IndexerSettings.Proofs.Schema.Joined
import IndexerSettings.Proofs.Schema.Keys
import IndexerSettings.Proofs.Settings.Ignoring
import IndexerSettings.Proofs.Source.Loading

/-!
# Which leaves are reported

A leaf of a document that loads is reported as unknown unless it has the key of
a field.  It has one where the field stands, and there the settings take its
value; it also has one if it stands at the root under the whole key as its own
name, where nothing reads it (`Source.leaf_unreported_iff`).

A leaf that is reported counts for nothing: without it the document loads as
what it did, or fails as it did (`Source.toSettings_without`).
-/

namespace IndexerSettings

open Json (Ascending mem_leaves_cons_iff mem_leaves_nil_iff lookup_eq_some_of_mem)
open Settings (value?_scope ofDocument_eq_ok_iff)
open Settings.Part (entries_indexer forall_entries_iff at?_scope readOr_eq_ok_iff_gives)
open Outcome (mapError_mapError)

namespace Document

variable {d : Document}

theorem get?_of_mem {m : Json.Member} (hm : m ∈ d.members) : d.get? m.1 = some m.2 :=
  lookup_eq_some_of_mem (Ascending.nodup d.ordered.1) hm

/-- A leaf below two names is a field of an object. -/
theorem fields?_of_mem_leaves {scope key : String} {j : Json}
    (h : ([scope, key], j) ∈ d.leaves) :
    ∃ fields, d.fields? scope = some fields ∧ fields.lookup key = some j := by
  have hroot : ([scope, key], j) ∈ Json.leaves (.object d.members) := h
  obtain ⟨members, heq, m, hm, rfl, hrest⟩ := mem_leaves_cons_iff.mp hroot
  obtain rfl := Json.object.inj heq
  obtain ⟨fields, hfields, n, hn, rfl, hnil⟩ := mem_leaves_cons_iff.mp hrest
  obtain ⟨-, rfl⟩ := mem_leaves_nil_iff.mp hnil
  have hget : d.fields? m.1 = some fields := by
    rw [fields?, get?_of_mem hm, hfields]
  have hordered := ordered_of_fields? hget
  exact ⟨fields, hget, lookup_eq_some_of_mem (Ascending.nodup hordered.1) hn⟩

end Document

namespace Source

variable {src : Source} {path : List String} {j : Json}

theorem intercalate_mem_suppliedKeys (h : path ∈ src.document.leafPaths) :
    ".".intercalate path ∈ src.suppliedKeys := by
  refine List.mem_append_left _ ?_
  exact List.mem_map_of_mem h

theorem reported_iff (r : Registry) (h : path ∈ src.document.leafPaths) :
    ".".intercalate path ∈ r.unknownKeys src.suppliedKeys ↔
      ".".intercalate path ∉ r.flatKeys := by
  rw [Registry.mem_unknownKeys]
  exact and_iff_right (intercalate_mem_suppliedKeys h)

theorem path_mem_leafPaths (h : (path, j) ∈ src.document.leaves) :
    path ∈ src.document.leafPaths := by
  rw [← Document.map_fst_leaves]
  exact List.mem_map_of_mem h

/-- The names on the way to a leaf join to the key of a field in two ways. -/
theorem intercalate_mem_flatKeys_iff :
    ".".intercalate path ∈ Registry.indexer.flatKeys ↔
      ∃ e ∈ Registry.indexer.entries, ∃ f ∈ e.2.allFields,
        path = [e.1, f.key] ∨ path = [flatKey e.1 f.key] := by
  rw [Registry.mem_flatKeys]
  constructor
  · rintro ⟨e, he, key, hkey, heq⟩
    obtain ⟨f, hf, rfl⟩ := List.mem_map.mp hkey
    obtain ⟨hscope, hdots⟩ := Registry.dot_notMem_indexer e he
    exact ⟨e, he, f, hf, (intercalate_eq_flatKey_iff hscope (hdots f hf)).mp heq.symm⟩
  · rintro ⟨e, he, f, hf, hpath⟩
    obtain ⟨hscope, hdots⟩ := Registry.dot_notMem_indexer e he
    exact ⟨e, he, f.key, List.mem_map_of_mem hf,
      ((intercalate_eq_flatKey_iff hscope (hdots f hf)).mpr hpath).symm⟩

/-- A leaf where a field stands is what the settings have for that field. -/
theorem value?_of_mem_leaves {s : Settings} (hs : src.toSettings = .ok s)
    {p : Settings.Part} {f : Field} (hf : f ∈ p.owner.allFields)
    (hleaf : ([p.scope, f.key], j) ∈ src.document.leaves) :
    ∃ v, f.kind.valueOf? j = some v ∧ s.value? p.scope f.key = some v := by
  obtain ⟨fields, hfields, hj⟩ := Document.fields?_of_mem_leaves hleaf
  have hread := ofDocument_eq_ok_iff.mp (toSettings_eq_ok_iff.mp hs) p
  obtain ⟨v, hv, hgives⟩ := (readOr_eq_ok_iff_gives hfields).mp hread f hf
  rw [Document.Gives, at?_scope hfields, hj] at hgives
  exact ⟨v, hgives, value?_scope s p f.key ▸ hv⟩

/-- In a document that loads, the leaves that go unreported are those where a
field stands, whose values the settings take, and those at the root whose own
name is the key of a field. -/
theorem leaf_unreported_iff {s : Settings} (hs : src.toSettings = .ok s)
    (hleaf : (path, j) ∈ src.document.leaves) :
    (".".intercalate path ∉ Registry.indexer.unknownKeys src.suppliedKeys ↔
      ∃ e ∈ Registry.indexer.entries, ∃ f ∈ e.2.allFields,
        path = [e.1, f.key] ∨ path = [flatKey e.1 f.key])
    ∧ ∀ e ∈ Registry.indexer.entries, ∀ f ∈ e.2.allFields, path = [e.1, f.key] →
      ∃ v, f.kind.valueOf? j = some v ∧ s.value? e.1 f.key = some v := by
  have hpath := path_mem_leafPaths hleaf
  refine ⟨?_, ?_⟩
  · rw [reported_iff _ hpath, not_not, intercalate_mem_flatKeys_iff]
  · refine (forall_entries_iff (P := fun scope owner => ∀ f ∈ owner.allFields,
      path = [scope, f.key] → ∃ v, f.kind.valueOf? j = some v
        ∧ s.value? scope f.key = some v)).mpr fun p f hf hp => ?_
    subst hp
    exact value?_of_mem_leaves hs hf hleaf

theorem leaf_unreported_iff_api :
    let src : Source := ⟨.ofMembers [("base", .object [("api", .ofString "x")])], []⟩
    let s : Settings := { base := { api := "x" } }
    src.toSettings = .ok s
    ∧ (["base", "api"], .ofString "x") ∈ src.document.leaves
    ∧ (".".intercalate ["base", "api"] ∉ Registry.indexer.unknownKeys src.suppliedKeys ↔
      ∃ e ∈ Registry.indexer.entries, ∃ f ∈ e.2.allFields,
        ["base", "api"] = [e.1, f.key] ∨ ["base", "api"] = [flatKey e.1 f.key])
    ∧ ∀ e ∈ Registry.indexer.entries, ∀ f ∈ e.2.allFields, ["base", "api"] = [e.1, f.key] →
      ∃ v, f.kind.valueOf? (.ofString "x") = some v ∧ s.value? e.1 f.key = some v := by
  intro src s
  have hs : src.toSettings = .ok s := rfl
  have hleaf : (["base", "api"], .ofString "x") ∈ src.document.leaves := by decide
  exact ⟨hs, hleaf, leaf_unreported_iff hs hleaf⟩

/-- A member of the root named like a key is not read, and not reported. -/
theorem dotted_member_unreported :
    let src : Source := ⟨.ofMembers [("base.api", .ofString "x")], []⟩
    src.toSettings = .ok {}
    ∧ (["base.api"], .ofString "x") ∈ src.document.leaves
    ∧ ".".intercalate ["base.api"] ∉ Registry.indexer.unknownKeys src.suppliedKeys
    ∧ ¬∃ e ∈ Registry.indexer.entries, ∃ f ∈ e.2.allFields, ["base.api"] = [e.1, f.key] := by
  intro src
  have hleaf : (["base.api"], .ofString "x") ∈ src.document.leaves := by decide
  refine ⟨rfl, hleaf, fun hreported => ?_, ?_⟩
  · have hkey : ".".intercalate ["base.api"] ∈ Registry.indexer.flatKeys := by decide
    exact (reported_iff _ (path_mem_leafPaths hleaf)).mp hreported hkey
  · rintro ⟨e, -, f, -, heq⟩
    have hlength := congrArg List.length heq
    simp at hlength

/-! ## Reported leaves taken out -/

def without (src : Source) (gone : List String → Bool) : Source :=
  { src with document := src.document.without gone }

/-- Leaves that are reported can be taken out, all or some of them: the
document loads as the same settings, or is refused in the same words. -/
theorem toSettings_without {gone : List String → Bool} (h : src.document.HasSections)
    (hgone : ∀ path ∈ src.document.leafPaths, gone path = true →
      ".".intercalate path ∈ Registry.indexer.unknownKeys src.suppliedKeys) :
    (src.without gone).toSettings.mapError LoadError.message
      = src.toSettings.mapError LoadError.message
    ∧ (src.without gone).document.leaves
      = src.document.leaves.filter fun leaf => !gone leaf.1 := by
  have hmessage : ∀ m : Mismatch, (LoadError.mismatch m).message
      = "failed to parse config: " ++ m.message := fun _ => rfl
  refine ⟨?_, src.document.leaves_without gone⟩
  simp only [toSettings_eq, mapError_mapError, hmessage]
  rw [← mapError_mapError Mismatch.message, ← mapError_mapError Mismatch.message]
  refine congrArg _ (Settings.message_ofDocument_without ?_ ?_)
  · intro m hm hleaf _ p hp
    obtain ⟨fields, hfields⟩ := Document.hasSections_iff.mp h p
    rw [hp, Document.fields?, Document.get?_of_mem hm] at hfields
    split at hfields
    · rename_i heq
      cases heq
    · rename_i heq
      exact hleaf _ (Option.some.inj heq)
    · cases hfields
  · intro m hm fields hfields n hn hleaf hgoneKey p hp hkey
    have hbelow : ([n.1], n.2) ∈ Json.leaves m.2 :=
      mem_leaves_cons_iff.mpr ⟨fields, hfields, n, hn, rfl, mem_leaves_nil_iff.mpr ⟨hleaf, rfl⟩⟩
    have hpath : [m.1, n.1] ∈ src.document.leafPaths :=
      path_mem_leafPaths (mem_leaves_cons_iff.mpr ⟨_, rfl, m, hm, rfl, hbelow⟩)
    refine (reported_iff _ hpath).mp (hgone _ hpath hgoneKey) ?_
    have hentry : (p.scope, p.owner) ∈ Registry.indexer.entries := by
      rw [entries_indexer]
      exact List.mem_map_of_mem p.mem_all
    exact Registry.mem_flatKeys.mpr ⟨_, hentry, n.1, hkey, hp ▸ intercalate_pair p.scope n.1⟩

theorem toSettings_without_below_field :
    let src : Source := ⟨.ofMembers [
      ("base", .object [("api", .object [("x", .ofCount 1)]), ("foo", .array [])]),
      ("other", .object [("y", .object [("z", .ofString "")])])], []⟩
    let gone : List String → Bool := fun path =>
      path ∈ [["base", "api", "x"], ["base", "foo"], ["other", "y", "z"]]
    src.document.HasSections
    ∧ (∀ path ∈ src.document.leafPaths, gone path = true →
      ".".intercalate path ∈ Registry.indexer.unknownKeys src.suppliedKeys)
    ∧ (src.without gone).toSettings.mapError LoadError.message
      = src.toSettings.mapError LoadError.message
    ∧ (src.without gone).document.leaves = [] := by
  intro src gone
  have h : src.document.HasSections :=
    Document.hasSections_iff.mpr fun p => by cases p <;> exact ⟨_, rfl⟩
  have hkeys : ∀ path ∈ src.document.leafPaths,
      ".".intercalate path ∉ Registry.indexer.flatKeys := by decide
  have hgone : ∀ path ∈ src.document.leafPaths, gone path = true →
      ".".intercalate path ∈ Registry.indexer.unknownKeys src.suppliedKeys :=
    fun path hpath _ => (reported_iff _ hpath).mpr (hkeys path hpath)
  obtain ⟨hsame, hleaves⟩ := toSettings_without h hgone
  exact ⟨h, hgone, hsame, hleaves.trans rfl⟩

end Source

end IndexerSettings
