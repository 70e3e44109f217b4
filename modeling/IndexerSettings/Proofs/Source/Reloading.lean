import IndexerSettings.Proofs.Schema.Keys
import IndexerSettings.Proofs.Settings.Printing
import IndexerSettings.Proofs.Source.Loading

/-!
# Settings loaded from what is written of them

The settings written as JSON load as themselves, unless a number in them is
not finite, and every key written is one that a section declares.
-/

namespace IndexerSettings

open Settings (value?_scope fields?_toDocument at?_toDocument mem_leafPaths_toDocument)
open Settings.Part (exists_lookup_values)

/-! ## Numbers -/

/-- Only one field holds a floating-point number. -/
theorem Settings.Part.isWritable_of_mem_values {s : Settings}
    (h : s.base.throttling.throttling.isFinite = true) (p : Part) :
    ∀ e ∈ p.values (p.get s), e.2.IsWritable := by
  cases p <;>
    simp [get, values, DatabaseSettings.values, LogSettings.values, ProbeSettings.values,
      BaseSettings.values, FlagSettings.values, FieldValue.IsWritable, h]

/-! ## Sources -/

namespace Settings

theorem hasSections_toDocument (s : Settings) : s.toDocument.HasSections :=
  Document.hasSections_iff.mpr fun p => ⟨_, fields?_toDocument s p⟩

end Settings

namespace Source

theorem ofJson_toJson (s : Settings) : ofJson s.toJson = .ok ⟨s.toDocument, []⟩ := rfl

/-- Settings load as what was written of them. -/
theorem toSettings_toDocument {s : Settings}
    (h : s.base.throttling.throttling.isFinite = true) (overridden : List String) :
    (Source.mk s.toDocument overridden).toSettings = .ok s := by
  refine (toSettings_eq_ok_iff_gives s.hasSections_toDocument).mpr fun p f hf => ?_
  obtain ⟨v, hv, hkind⟩ := exists_lookup_values hf (p.get s)
  have hmem : (f.key, v) ∈ p.values (p.get s) := by
    obtain ⟨before, after, heq, -⟩ := List.lookup_eq_some_iff.mp hv
    simp [heq]
  have hwritable : v.IsWritable := Settings.Part.isWritable_of_mem_values h p _ hmem
  rw [← value?_scope] at hv
  refine ⟨v, hv, ?_⟩
  rw [Document.Gives, at?_toDocument, hv, ← hkind]
  exact FieldValue.valueOf?_toJson hwritable

/-- What is written of settings has keys of the registry only. -/
theorem mem_flatKeys_of_mem_leafKeys {s : Settings} {key : String}
    (h : key ∈ (Source.mk s.toDocument []).leafKeys) : key ∈ Registry.indexer.flatKeys := by
  obtain ⟨path, hpath, rfl⟩ := List.mem_map.mp h
  obtain ⟨p, key, hkey, rfl⟩ := mem_leafPaths_toDocument.mp hpath
  exact Registry.mem_flatKeys.mpr ⟨(p.scope, p.owner), p.mem_entries, key, hkey, rfl⟩

theorem unknownKeys_toDocument (s : Settings) :
    Registry.indexer.unknownKeys (Source.mk s.toDocument []).suppliedKeys = [] := by
  refine Registry.unknownKeys_eq_nil fun k hk => ?_
  rw [suppliedKeys, List.filter_nil, List.append_nil] at hk
  exact mem_flatKeys_of_mem_leafKeys hk

end Source

end IndexerSettings
