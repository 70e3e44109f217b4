import IndexerSettings.Proofs.Settings.Documents
import IndexerSettings.Source.Basic

/-!
# What a source loads as

The registry and the settings are two descriptions of the same fields.  They
agree on every document whose sections are objects: it loads exactly if what
stands under each registered key fits the kind registered for it, and every
setting is then what stands there, or the default.
-/

namespace IndexerSettings

open Outcome (mapError_eq_ok_iff)
open Settings (value?_scope exists_ofDocument_iff)
open Settings.Part (forall_entries_iff at?_scope exists_readOr_iff
  readOr_eq_ok_iff_gives exists_lookup_values)

namespace Document

/-- Every registered section is an object, or absent. -/
def HasSections (d : Document) : Prop :=
  ∀ scope ∈ Registry.indexer.scopes, ∃ members, d.fields? scope = some members

theorem hasSections_iff {d : Document} :
    d.HasSections ↔ ∀ p : Settings.Part, ∃ members, d.fields? p.scope = some members := by
  rw [HasSections, Registry.scopes, List.forall_mem_map]
  exact forall_entries_iff (P := fun scope _ => ∃ members, d.fields? scope = some members)

end Document

namespace Source

theorem toSettings_eq (src : Source) :
    src.toSettings = (Settings.ofDocument src.document).mapError .mismatch := by
  rw [toSettings]
  cases Settings.ofDocument src.document <;> rfl

theorem toSettings_eq_ok_iff {src : Source} {s : Settings} :
    src.toSettings = .ok s ↔ Settings.ofDocument src.document = .ok s := by
  rw [toSettings_eq, mapError_eq_ok_iff]

theorem exists_toSettings_iff {src : Source} (h : src.document.HasSections) :
    (∃ s, src.toSettings = .ok s) ↔
      ∀ p : Settings.Part, ∀ f ∈ p.owner.allFields, ∀ j,
        src.document.at? p.scope f.key = some j → f.kind.Fits j := by
  simp only [toSettings_eq_ok_iff, exists_ofDocument_iff]
  refine forall_congr' fun p => ?_
  obtain ⟨members, hmembers⟩ := Document.hasSections_iff.mp h p
  rw [exists_readOr_iff hmembers, Settings.Part.Accepts]
  simp only [at?_scope hmembers]

theorem toSettings_eq_ok_iff_gives {src : Source} (h : src.document.HasSections)
    {s : Settings} :
    src.toSettings = .ok s ↔
      ∀ p : Settings.Part, ∀ f ∈ p.owner.allFields, ∃ v,
        s.value? p.scope f.key = some v ∧ src.document.Gives p.scope f v := by
  rw [toSettings_eq_ok_iff, Settings.ofDocument_eq_ok_iff]
  refine forall_congr' fun p => ?_
  obtain ⟨members, hmembers⟩ := Document.hasSections_iff.mp h p
  simp only [readOr_eq_ok_iff_gives hmembers, value?_scope]

/-- The registry and the settings agree.  A document loads exactly if the values
under registered keys fit the kinds registered; every field of the settings is
then the value supplied or the default, and what else stands in the document
has no influence on them. -/
theorem toSettings_exact (src : Source) (h : src.document.HasSections) :
    ((∃ s, src.toSettings = .ok s) ↔
      ∀ e ∈ Registry.indexer.entries, ∀ f ∈ e.2.allFields, ∀ j,
        src.document.at? e.1 f.key = some j → f.kind.Fits j)
    ∧ (∀ s, src.toSettings = .ok s ↔
      ∀ e ∈ Registry.indexer.entries, ∀ f ∈ e.2.allFields, ∃ v, v.kind = f.kind
        ∧ s.value? e.1 f.key = some v ∧ src.document.Gives e.1 f v)
    ∧ ∀ other : Source, other.document.HasSections →
      (∀ e ∈ Registry.indexer.entries, ∀ f ∈ e.2.allFields,
        other.document.at? e.1 f.key = src.document.at? e.1 f.key) →
      ∀ s, other.toSettings = .ok s ↔ src.toSettings = .ok s := by
  refine ⟨?_, fun s => ?_, fun other hother hsame s => ?_⟩
  · rw [exists_toSettings_iff h]
    exact (forall_entries_iff (P := fun scope owner => ∀ f ∈ owner.allFields, ∀ j,
      src.document.at? scope f.key = some j → f.kind.Fits j)).symm
  · rw [toSettings_eq_ok_iff_gives h,
      forall_entries_iff (P := fun scope owner => ∀ f ∈ owner.allFields, ∃ v, v.kind = f.kind
        ∧ s.value? scope f.key = some v ∧ src.document.Gives scope f v)]
    refine forall_congr' fun p => forall₂_congr fun f hf => exists_congr fun v => ?_
    constructor
    · rintro ⟨hv, hgives⟩
      obtain ⟨w, hw, hkind⟩ := exists_lookup_values hf (p.get s)
      rw [← value?_scope, hv] at hw
      obtain rfl := Option.some.inj hw
      exact ⟨hkind, hv, hgives⟩
    · rintro ⟨-, hv, hgives⟩
      exact ⟨hv, hgives⟩
  · rw [toSettings_eq_ok_iff_gives hother, toSettings_eq_ok_iff_gives h]
    have hsame := (forall_entries_iff (P := fun scope owner => ∀ f ∈ owner.allFields,
      other.document.at? scope f.key = src.document.at? scope f.key)).mp hsame
    refine forall_congr' fun p => forall₂_congr fun f hf => exists_congr fun v => ?_
    rw [Document.Gives, Document.Gives, hsame p f hf]

theorem toSettings_exact_host :
    let src : Source := ⟨.ofMembers [("database", .object [("host", .ofString "db")])], []⟩
    src.document.HasSections
    ∧ ∀ e ∈ Registry.indexer.entries, ∀ f ∈ e.2.allFields, ∃ v, v.kind = f.kind
      ∧ Settings.value? { database := { host := "db" } } e.1 f.key = some v
      ∧ src.document.Gives e.1 f v := by
  intro src
  have h : src.document.HasSections :=
    Document.hasSections_iff.mpr fun p => by cases p <;> exact ⟨_, rfl⟩
  exact ⟨h, ((toSettings_exact src h).2.1 _).mp rfl⟩

end Source

end IndexerSettings
