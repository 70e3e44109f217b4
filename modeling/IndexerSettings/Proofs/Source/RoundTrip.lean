import IndexerSettings.Proofs.Decimal.Finite
import IndexerSettings.Proofs.Source.Forms
import IndexerSettings.Proofs.Source.Reloading
import IndexerSettings.Proofs.Source.Supplying

/-!
# Settings written and loaded

What is written of settings has one leaf for each key that is listed, and loads as
those settings unless the number in them is not finite, for which JSON has no form.
A number that is read is finite, whether it comes from a file or from an override,
so settings that were loaded are always restored (`Source.toSettings_roundTrip`).
-/

namespace IndexerSettings

open Settings (value?_scope mem_leafPaths_toDocument)
open Settings.Part (entries_indexer forall_entries_iff)

/-! ## Values that can be written -/

namespace FieldValue

variable {v : FieldValue}

/-- What is read has a form. -/
theorem isWritable_of_valueOf? {kind : FieldKind} {j : Json} (h : kind.valueOf? j = some v) :
    v.IsWritable := by
  unfold FieldKind.valueOf? at h
  split at h
  · obtain rfl := Option.some.inj h
    trivial
  · split at h
    · obtain rfl := Option.some.inj h
      trivial
    · cases h
  · split at h
    · obtain rfl := Option.some.inj h
      trivial
    · cases h
  · rename_i n
    obtain rfl := Option.some.inj h
    exact n.isFinite_toBinary64
  · obtain rfl := Option.some.inj h
    trivial
  · cases h

end FieldValue

/-- What is given to a field is a default or has been read. -/
theorem Field.Takes.isWritable {p : Settings.Part} {f : Field} {supplied : Option Json}
    {v : FieldValue} (h : f.Takes p.scope supplied v) : v.IsWritable := by
  cases supplied with
  | some j => exact FieldValue.isWritable_of_valueOf? h
  | none =>
      have hfinite : ({} : Settings).base.throttling.throttling.isFinite = true := by decide
      have hv : (p.values (p.get {})).lookup f.key = some v := value?_scope {} p f.key ▸ h
      exact Settings.Part.isWritable_of_mem_values hfinite p _ (Json.mem_of_lookup_eq_some hv)

namespace Source

variable {src src' : Source} {s : Settings} {key : String}

/-- Settings that were loaded can be written. -/
theorem isFinite_of_toSettings (h : src.toSettings = .ok s) :
    s.base.throttling.throttling.isFinite = true := by
  obtain ⟨members, -, htakes⟩ := toSettings_eq_ok_iff_membersOf?.mp h .base
  have hfield : ⟨"throttling", .float, "seconds to pause between block requests"⟩
      ∈ Settings.Part.base.owner.allFields := by decide
  obtain ⟨v, hv, htaken⟩ := htakes _ hfield
  obtain rfl : .float s.base.throttling.throttling = v := Option.some.inj hv
  exact htaken.isWritable

/-! ## Settings that are written -/

theorem toSettings_toDocument_iff :
    (Source.mk s.toDocument []).toSettings = .ok s ↔
      s.base.throttling.throttling.isFinite = true :=
  ⟨isFinite_of_toSettings, fun h => toSettings_toDocument h []⟩

/-- The names on the way to what is written hold no dots. -/
theorem dot_notMem_of_mem_keys {p : Settings.Part} (h : key ∈ p.owner.keys) :
    '.' ∉ p.scope.toList ∧ '.' ∉ key.toList := by
  obtain ⟨f, hf, rfl⟩ := List.mem_map.mp h
  have hdots := (forall_entries_iff (P := fun scope owner => '.' ∉ scope.toList
    ∧ ∀ f ∈ owner.allFields, '.' ∉ f.key.toList)).mp Registry.dot_notMem_indexer p
  exact ⟨hdots.1, hdots.2 f hf⟩

theorem nodup_leafKeys_toDocument (s : Settings) :
    (Source.mk s.toDocument []).leafKeys.Nodup := by
  refine nodup_leafKeys fun path hpath => ?_
  obtain ⟨p, key, hkey, rfl⟩ := mem_leafPaths_toDocument.mp hpath
  obtain ⟨hscope, hdots⟩ := dot_notMem_of_mem_keys hkey
  simpa using ⟨hscope, hdots⟩

theorem mem_leafKeys_toDocument (s : Settings) :
    key ∈ (Source.mk s.toDocument []).leafKeys ↔ key ∈ Registry.indexer.validKeys := by
  have hvalid : key ∈ Registry.indexer.validKeys ↔ key ∈ Registry.indexer.flatKeys :=
    KeySet.mem_ofList
  rw [hvalid]
  refine ⟨mem_flatKeys_of_mem_leafKeys, fun h => ?_⟩
  rw [Registry.mem_flatKeys, entries_indexer] at h
  obtain ⟨e, he, key, hkey, rfl⟩ := h
  obtain ⟨p, -, rfl⟩ := List.mem_map.mp he
  have hpath : [p.scope, key] ∈ s.toDocument.leafPaths :=
    mem_leafPaths_toDocument.mpr ⟨p, key, hkey, rfl⟩
  exact List.mem_map.mpr ⟨_, hpath, intercalate_pair p.scope key⟩

/-- What is written of settings has each key of the registry once, and loads as
those settings if and only if their number is finite.  That is so in all settings
that were loaded, from whatever document and after whatever overrides. -/
theorem toSettings_roundTrip :
    (∀ s : Settings, ∃ members written,
      s.toJson = .object members ∧ ofJson s.toJson = .ok written
      ∧ written.leafKeys.Nodup
      ∧ (∀ key, key ∈ written.leafKeys ↔ key ∈ Registry.indexer.validKeys)
      ∧ (written.toSettings = .ok s ↔ s.base.throttling.throttling.isFinite = true))
    ∧ ∀ (src src' : Source) (r : Registry) (overrides : List String) (s : Settings),
      src.overrideAll r overrides = .ok src' → src'.toSettings = .ok s →
        s.base.throttling.throttling.isFinite = true
        ∧ ∃ written, ofJson s.toJson = .ok written ∧ written.toSettings = .ok s := by
  refine ⟨fun s => ?_, fun src src' r overrides s _ hs => ?_⟩
  · exact ⟨_, ⟨s.toDocument, []⟩, rfl, ofJson_toJson s, nodup_leafKeys_toDocument s,
      fun key => mem_leafKeys_toDocument s, toSettings_toDocument_iff⟩
  · have hfinite := isFinite_of_toSettings hs
    exact ⟨hfinite, _, ofJson_toJson s, toSettings_toDocument_iff.mpr hfinite⟩

/-- A whole number may be rounded when it is read, and is restored as what it was
rounded to. -/
theorem toSettings_roundTrip_rounded :
    let src : Source := ⟨.ofMembers [("base", .object [("throttling", .ofCount (2 ^ 64 - 1))])], []⟩
    let s : Settings :=
      { log := { pretty := true }, base := { throttling := ⟨.ofInt (2 ^ 64 - 1)⟩ } }
    ∃ src', src.overrideAll .indexer ["log.pretty=true"] = .ok src' ∧ src'.toSettings = .ok s
      ∧ s.base.throttling.throttling.isFinite = true
      ∧ ∃ written, ofJson s.toJson = .ok written ∧ written.toSettings = .ok s := by
  intro src s
  have hsrc' : src.overrideAll .indexer ["log.pretty=true"]
      = .ok ⟨.ofMembers [("base", .object [("throttling", .ofCount (2 ^ 64 - 1))]),
          ("log", .object [("pretty", .scalar (.bool true))])], ["log.pretty"]⟩ := rfl
  have hs : (Source.mk (.ofMembers [("base", .object [("throttling", .ofCount (2 ^ 64 - 1))]),
      ("log", .object [("pretty", .scalar (.bool true))])]) ["log.pretty"]).toSettings
      = .ok s := rfl
  exact ⟨_, hsrc', hs, toSettings_roundTrip.2 _ _ _ _ _ hsrc' hs⟩

end Source

end IndexerSettings
