import IndexerSettings.Proofs.Settings.Positional
import IndexerSettings.Proofs.Source.Drift
import IndexerSettings.Proofs.Source.Refusing

/-!
# The forms of sections

Loading a document takes a section from an array as well as from an object, and
nothing else that knows about sections does: overrides refuse to go into one,
and as a leaf of the document its scope is reported as an unknown key.  So a
document may load, have a key reported as without effect, and have its settings
from there.
-/

namespace IndexerSettings

open Json (mem_of_lookup_eq_some mem_leafPathsOf_iff lookup_zip)
open Settings (value?_scope ofDocument_eq_ok_iff)
open Settings.Part (forall_entries_iff readOr_eq_ok_iff_membersOf?)

theorem Document.nodup_of_get? {d : Document} {scope : String} {members : List Json.Member}
    (h : d.get? scope = some (.object members)) : (members.map Prod.fst).Nodup := by
  have hfields : d.fields? scope = some members := by rw [fields?, h]
  have hordered := ordered_of_fields? hfields
  exact hordered.1.nodup

/-- What is read as a section and is no array is an object, or absent. -/
theorem Section.fields?_of_membersOf? {owner : Section} {d : Document} {scope : String}
    {members : List Json.Member} (h : owner.membersOf? (d.get? scope) = some members)
    (hne : ∀ items, d.get? scope ≠ some (.array items)) : d.fields? scope = some members := by
  rw [Document.fields?]
  unfold membersOf? at h
  split at h
  · rename_i hget
    rw [hget]
    exact h
  · rename_i hget
    rw [hget]
    exact h
  · rename_i items hget
    exact absurd hget (hne items)
  · cases h

/-! ## What is taken from members and from items -/

namespace Settings

/-- Every field of a section is given what stands for it among some members. -/
def TakesMembers (s : Settings) (scope : String) (owner : Section) (members : List Json.Member) :
    Prop :=
  ∀ f ∈ owner.allFields, ∃ v,
    s.value? scope f.key = some v ∧ f.Takes scope (members.lookup f.key) v

/-- Every item is for the field at its position. -/
def TakesItems (s : Settings) (scope : String) (owner : Section) (items : List Json) : Prop :=
  ∀ (i : Nat) (j : Json), items[i]? = some j → ∃ (f : Field) (v : FieldValue),
    owner.allFields[i]? = some f ∧ f.kind.valueOf? j = some v ∧ s.value? scope f.key = some v

theorem TakesMembers.takesItems {s : Settings} {scope : String} {owner : Section}
    {items : List Json} (hnd : owner.keys.Nodup) (hlength : items.length ≤ owner.keys.length)
    (h : s.TakesMembers scope owner (owner.keys.zip items)) : s.TakesItems scope owner items := by
  intro i j hj
  rw [Section.keys, List.length_map] at hlength
  have hi : i < owner.allFields.length :=
    Nat.lt_of_lt_of_le (List.getElem?_eq_some_iff.mp hj).1 hlength
  have hf : owner.allFields[i]? = some owner.allFields[i] := List.getElem?_eq_getElem hi
  have hkey : owner.keys[i]? = some owner.allFields[i].key := by
    rw [Section.keys, List.getElem?_map, hf]
    rfl
  obtain ⟨v, hv, htakes⟩ := h _ (List.getElem_mem hi)
  rw [lookup_zip hnd hkey, hj] at htakes
  exact ⟨_, v, hf, htakes, hv⟩

end Settings

/-! ## Sections of documents that load -/

namespace Source

variable {src : Source} {s : Settings} {p : Settings.Part} {items : List Json}

theorem toSettings_eq_ok_iff_membersOf? :
    src.toSettings = .ok s ↔
      ∀ p : Settings.Part, ∃ members,
        p.owner.membersOf? (src.document.get? p.scope) = some members
        ∧ s.TakesMembers p.scope p.owner members := by
  rw [toSettings_eq_ok_iff, ofDocument_eq_ok_iff]
  refine forall_congr' fun p => ?_
  rw [readOr_eq_ok_iff_membersOf? fun _ => Document.nodup_of_get?]
  simp only [Settings.TakesMembers, value?_scope]

/-- In a document that loads, what is no object is an array. -/
theorem hasSections_iff_ne_array (hs : src.toSettings = .ok s) :
    src.document.HasSections ↔
      ∀ p : Settings.Part, ∀ items, src.document.get? p.scope ≠ some (.array items) := by
  rw [Document.hasSections_iff]
  refine forall_congr' fun p => ⟨?_, fun hne => ?_⟩
  · rintro ⟨members, hmembers⟩ items hget
    rw [Document.fields?, hget] at hmembers
    cases hmembers
  · obtain ⟨members, hmembers, -⟩ := toSettings_eq_ok_iff_membersOf?.mp hs p
    exact ⟨members, Section.fields?_of_membersOf? hmembers hne⟩

/-- A section that is an array is a leaf, and its scope alone is no key. -/
theorem scope_reported_of_array (hget : src.document.get? p.scope = some (.array items)) :
    p.scope ∈ Registry.indexer.unknownKeys src.suppliedKeys := by
  have hpath : [p.scope] ∈ src.document.leafPaths :=
    mem_leafPathsOf_iff.mpr ⟨_, mem_of_lookup_eq_some hget, [], List.mem_singleton_self [], rfl⟩
  have hjoin : ".".intercalate [p.scope] = p.scope := rfl
  have hkey : p.scope ∉ Registry.indexer.flatKeys := by
    cases p <;> decide
  have hreported := reported_iff Registry.indexer hpath
  rw [hjoin] at hreported
  exact hreported.mpr hkey

/-- An array that is read as a section, in the eyes of all that know of sections:
it is reported as if it had no effect, no override goes into it, and the settings
have what its items are. -/
structure ReadsArray (src : Source) (s : Settings) (scope : String) (owner : Section)
    (items : List Json) : Prop where
  reported : scope ∈ Registry.indexer.unknownKeys src.suppliedKeys
  closed : ∀ key value, src.document.put? scope key value = none
  plain : owner.composed.isEmpty
  length_le : items.length ≤ owner.keys.length
  taken : s.TakesItems scope owner items

theorem readsArray (hs : src.toSettings = .ok s)
    (hget : src.document.get? p.scope = some (.array items)) :
    src.ReadsArray s p.scope p.owner items := by
  obtain ⟨members, hmembers, htakes⟩ := toSettings_eq_ok_iff_membersOf?.mp hs p
  rw [hget] at hmembers
  obtain ⟨hcomposed, hlength, rfl⟩ := Section.membersOf?_array hmembers
  exact {
    reported := scope_reported_of_array hget
    closed := fun key value => Document.put?_eq_none_iff.mpr ⟨_, hget, nofun⟩
    plain := hcomposed
    length_le := hlength
    taken := htakes.takesItems p.nodup_keys hlength }

/-- The forms that sections load from.  A document loads exactly if each section
is absent, an object, or, where it takes in no other, an array with no more items
than it has fields, and every value fits its field; an item goes to the field at
its position.  The scope of an array is at the same time reported as unknown, and
nothing can be put into it.  Only without arrays are the sections of what loads
all objects. -/
theorem toSettings_forms (src : Source) (s : Settings) :
    (src.toSettings = .ok s ↔
      ∀ e ∈ Registry.indexer.entries, ∃ members,
        e.2.membersOf? (src.document.get? e.1) = some members ∧ s.TakesMembers e.1 e.2 members)
    ∧ (src.toSettings = .ok s →
      (src.document.HasSections ↔
        ∀ e ∈ Registry.indexer.entries, ∀ items, src.document.get? e.1 ≠ some (.array items)))
    ∧ (src.toSettings = .ok s →
      ∀ e ∈ Registry.indexer.entries, ∀ items, src.document.get? e.1 = some (.array items) →
        src.ReadsArray s e.1 e.2 items) := by
  refine ⟨?_, fun hs => ?_, fun hs => ?_⟩
  · rw [toSettings_eq_ok_iff_membersOf?]
    exact (forall_entries_iff (P := fun scope owner => ∃ members,
      owner.membersOf? (src.document.get? scope) = some members
        ∧ s.TakesMembers scope owner members)).symm
  · rw [hasSections_iff_ne_array hs]
    exact (forall_entries_iff (P := fun scope _ => ∀ items,
      src.document.get? scope ≠ some (.array items))).symm
  · exact (forall_entries_iff (P := fun scope owner => ∀ items,
      src.document.get? scope = some (.array items) →
        src.ReadsArray s scope owner items)).mpr fun p items hget => readsArray hs hget

/-- A level and a path, each at its place, and a section of the usual form. -/
theorem toSettings_forms_log :
    let src : Source := ⟨.ofMembers [
      ("base", .object [("api", .ofString "x")]),
      ("log", .array [.ofString "warn", .ofString "p"])], []⟩
    let s : Settings := { log := { level := "warn", path := "p" }, base := { api := "x" } }
    src.toSettings = .ok s
    ∧ ¬src.document.HasSections
    ∧ src.ReadsArray s "log" .log [.ofString "warn", .ofString "p"] := by
  intro src s
  have hs : src.toSettings = .ok s := rfl
  have hentry : ("log", Section.log) ∈ Registry.indexer.entries := by
    rw [Settings.Part.entries_indexer]
    exact List.mem_map_of_mem (Settings.Part.mem_all .log)
  have hget : src.document.get? "log" = some (.array [.ofString "warn", .ofString "p"]) := rfl
  obtain ⟨-, hforms, harrays⟩ := toSettings_forms src s
  exact ⟨hs, fun h => (hforms hs).mp h _ hentry _ hget, harrays hs _ hentry _ hget⟩

/-- A section that is an array: it is reported, and read. -/
theorem array_reported_and_read :
    let src : Source := ⟨.ofMembers [("log", .array [.ofString "debug"])], []⟩
    src.toSettings = .ok { log := { level := "debug" } }
    ∧ src.document.get? "log" = some (.array [.ofString "debug"])
    ∧ "log" ∈ Registry.indexer.unknownKeys src.suppliedKeys
    ∧ Settings.value? {} "log" "level" = some (.string "info") := by
  intro src
  have hget : src.document.get? "log" = some (.array [.ofString "debug"]) := rfl
  exact ⟨rfl, hget, scope_reported_of_array (p := .log) hget, rfl⟩

end Source

end IndexerSettings
