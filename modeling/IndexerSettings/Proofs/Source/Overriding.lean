import IndexerSettings.Proofs.Schema.Fields
import IndexerSettings.Proofs.Source.Loading

/-!
# What an override changes

A text that is taken as a value of some kind is one that the reader of that
kind accepts, so a source that loads still loads after an override.  The
settings are then the same as before, except for the one field that the key of
the override names (`Settings.IsUpdate`).
-/

namespace IndexerSettings

open Json (lookup_insert_self lookup_insert_of_ne)
open Settings (value?_scope value?_eq_none ext_value?)
open Settings.Part (entries_indexer get_put get_put_of_ne readOr_eq_ok_iff
  exists_readOr_iff scope_injective lookup_supply lookup_values_eq_none)

/-! ## Texts as values -/

theorem Json.Number.eq_of_ofInt?_eq_some {n : Int} {number : Json.Number}
    (h : Json.Number.ofInt? n = some number) : ∃ hn, number = .integer n hn := by
  unfold ofInt? at h
  split at h
  · rename_i hn
    exact ⟨hn, (Option.some.inj h).symm⟩
  · cases h

/-- A text taken as a value of a kind fits that kind. -/
theorem FieldKind.fits_of_coerce? {kind : FieldKind} {text : String}
    {value : Json.Scalar} (h : kind.coerce? text = some value) :
    kind.Fits (.scalar value) := by
  unfold coerce? at h
  cases kind with
  | bool =>
      simp only at h
      split at h
      · obtain rfl := Option.some.inj h
        exact ⟨true, rfl⟩
      · split at h
        · obtain rfl := Option.some.inj h
          exact ⟨false, rfl⟩
        · cases h
  | int =>
      obtain ⟨n, hrange, h⟩ := Option.bind_eq_some_iff.mp h
      obtain ⟨number, hnumber, rfl⟩ := Option.map_eq_some_iff.mp h
      obtain ⟨hn, rfl⟩ := Json.Number.eq_of_ofInt?_eq_some hnumber
      have hrange := (Option.filter_eq_some_iff.mp hrange).2
      exact ⟨n, hn, rfl, by simpa using hrange⟩
  | uint =>
      obtain ⟨n, -, h⟩ := Option.bind_eq_some_iff.mp h
      obtain ⟨number, hnumber, rfl⟩ := Option.map_eq_some_iff.mp h
      obtain ⟨hn, rfl⟩ := Json.Number.eq_of_ofInt?_eq_some hnumber
      exact ⟨n, hn, rfl, Int.natCast_nonneg n, hn.2⟩
  | float =>
      obtain ⟨x, -, h⟩ := Option.bind_eq_some_iff.mp h
      obtain ⟨number, -, rfl⟩ := Option.map_eq_some_iff.mp h
      exact ⟨number, rfl⟩
  | string =>
      obtain rfl := Option.some.inj h
      exact ⟨text, rfl⟩

/-! ## Values put into documents -/

namespace Document

variable {d d' : Document} {scope key : String} {value : Json.Scalar}

theorem exists_members_of_put? (h : d.put? scope key value = some d') :
    ∃ fields, d.fields? scope = some fields
      ∧ d'.members
        = Json.insert scope (.object (Json.insert key (.scalar value) fields)) d.members := by
  unfold put? at h
  split at h
  · cases h
  · rename_i fields hfields
    obtain rfl := Option.some.inj h
    exact ⟨fields, hfields, rfl⟩

theorem of_put?_eq_some (h : d.put? scope key value = some d') :
    ∃ members, d.fields? scope = some members
      ∧ d'.fields? scope = some (Json.insert key (.scalar value) members)
      ∧ ∀ other, other ≠ scope → d'.get? other = d.get? other := by
  obtain ⟨members, hmembers, hd'⟩ := exists_members_of_put? h
  refine ⟨members, hmembers, ?_, fun other hne => ?_⟩
  · rw [fields?, get?, hd', lookup_insert_self]
  · rw [get?, hd', lookup_insert_of_ne hne]
    rfl

end Document

/-! ## Settings with one field changed -/

namespace Settings

/-- Settings that differ from others in one field alone, by having a given
value there. -/
def IsUpdate (s : Settings) (scope key : String) (v : FieldValue) (s' : Settings) : Prop :=
  s'.value? scope key = some v
  ∧ ∀ scope' key', (scope', key') ≠ (scope, key) → s'.value? scope' key' = s.value? scope' key'

theorem IsUpdate.unique {s t t' : Settings} {scope key : String} {v : FieldValue}
    (h : s.IsUpdate scope key v t) (h' : s.IsUpdate scope key v t') : t = t' := by
  refine ext_value? fun p f _ => ?_
  by_cases hkey : (p.scope, f.key) = (scope, key)
  · obtain ⟨hp, hf⟩ := Prod.mk.inj hkey
    rw [hp, hf, h.1, h'.1]
  · rw [h.2 _ _ hkey, h'.2 _ _ hkey]

/-- A section with another value in one field, in place of the one it was. -/
theorem isUpdate_put {s : Settings} {p : Part} {key : String} {v : FieldValue}
    {x : p.Carrier} (hkey : (p.values x).lookup key = some v)
    (hother : ∀ key', key' ≠ key →
      (p.values x).lookup key' = (p.values (p.get s)).lookup key') :
    s.IsUpdate p.scope key v (p.put s x) := by
  refine ⟨?_, fun scope' key' hne => ?_⟩
  · rw [value?_scope, get_put]
    exact hkey
  · by_cases hscope : ∃ q : Part, q.scope = scope'
    · obtain ⟨q, rfl⟩ := hscope
      rw [value?_scope, value?_scope]
      by_cases hq : q = p
      · subst hq
        rw [get_put]
        exact hother key' fun h => hne (h ▸ rfl)
      · rw [get_put_of_ne hq]
    · have hnone : ∀ q : Part, q.scope ≠ scope' := fun q hq => hscope ⟨q, hq⟩
      rw [value?_eq_none _ hnone, value?_eq_none _ hnone]

/-- Putting a value that fits into a document that loads changes the settings
in the field that it is put under. -/
theorem exists_isUpdate_of_put? {d d' : Document} {s : Settings} {p : Part} {f : Field}
    {value : Json.Scalar} {v : FieldValue} (hs : ofDocument d = .ok s)
    (hf : f ∈ p.owner.allFields) (hv : f.kind.valueOf? (.scalar value) = some v)
    (hput : d.put? p.scope f.key value = some d') :
    ∃ s', ofDocument d' = .ok s' ∧ s.IsUpdate p.scope f.key v s' := by
  rw [ofDocument_eq_ok_iff] at hs
  obtain ⟨members, hmembers, hmembers', hget⟩ := Document.of_put?_eq_some hput
  obtain ⟨haccepts, hvalues⟩ := (readOr_eq_ok_iff hmembers).mp (hs p)
  have haccepts' : p.Accepts (Json.insert f.key (.scalar value) members) := by
    intro g hg j hj
    by_cases hkey : g.key = f.key
    · obtain rfl := List.inj_on_of_nodup_map p.nodup_keys hg hf hkey
      rw [lookup_insert_self] at hj
      obtain rfl := Option.some.inj hj
      exact FieldKind.fits_iff.mpr ⟨v, hv⟩
    · rw [lookup_insert_of_ne hkey] at hj
      exact haccepts g hg j hj
  obtain ⟨x, hx⟩ := (exists_readOr_iff hmembers').mpr haccepts'
  obtain ⟨-, hvalues'⟩ := (readOr_eq_ok_iff hmembers').mp hx
  refine ⟨p.put s x, ofDocument_eq_ok_iff.mpr fun q => ?_, isUpdate_put ?_ fun key hne => ?_⟩
  · by_cases hq : q = p
    · subst hq
      rw [get_put]
      exact hx
    · have hscope : q.scope ≠ p.scope := fun h => hq (scope_injective h)
      rw [hget _ hscope, get_put_of_ne hq]
      exact hs q
  · rw [hvalues', lookup_supply hf, lookup_insert_self, Option.bind_some, hv]
    rfl
  · by_cases hdeclared : key ∈ p.owner.keys
    · obtain ⟨g, hg, rfl⟩ := List.mem_map.mp hdeclared
      rw [hvalues', hvalues, lookup_supply hg, lookup_supply hg, lookup_insert_of_ne hne]
    · rw [lookup_values_eq_none hdeclared, lookup_values_eq_none hdeclared]

end Settings

/-! ## Overrides -/

namespace Source

/-- What an override asks for is the same for all sources. -/
theorem override_cases (r : Registry) (assignment : String) :
    (∃ e, ∀ s : Source, s.override r assignment = .error e)
    ∨ ∃ a entry value, Assignment.ofText? assignment = some a ∧ r.field? a.key = some entry
      ∧ entry.field.kind.coerce? a.value = some value
      ∧ ∀ s : Source, s.override r assignment
        = match s.document.put? entry.scope entry.field.key value with
          | none => .error (.sectionNotObject entry.scope)
          | some d => .ok ⟨d,
              if a.key ∈ s.overridden then s.overridden else s.overridden ++ [a.key]⟩ := by
  unfold override assign
  split
  · exact .inl ⟨_, fun _ => rfl⟩
  · rename_i a ha
    split
    · exact .inl ⟨_, fun _ => rfl⟩
    · rename_i entry hentry
      split
      · exact .inl ⟨_, fun _ => rfl⟩
      · rename_i value hvalue
        exact .inr ⟨a, entry, value, ha, hentry, hvalue, fun _ => rfl⟩

/-- What an accepted override has done. -/
theorem of_override_eq_ok {s s' : Source} {r : Registry} {assignment : String}
    (h : s.override r assignment = .ok s') :
    ∃ a entry value, Assignment.ofText? assignment = some a ∧ r.field? a.key = some entry
      ∧ entry.field.kind.coerce? a.value = some value
      ∧ s.document.put? entry.scope entry.field.key value = some s'.document
      ∧ ∃ new, s'.overridden = s.overridden ++ new ∧ ∀ key ∈ new, key = a.key := by
  rcases override_cases r assignment with ⟨e, he⟩ | ⟨a, entry, value, ha, hentry, hvalue, hs⟩
  · cases (he s).symm.trans h
  · rw [hs] at h
    split at h
    · cases h
    · rename_i d hput
      obtain rfl := Except.ok.inj h
      refine ⟨a, entry, value, ha, hentry, hvalue, hput, ?_⟩
      by_cases hmem : a.key ∈ s.overridden
      · exact ⟨[], by simp [hmem], nofun⟩
      · exact ⟨[a.key], by simp [hmem], fun key hkey => List.mem_singleton.mp hkey⟩

/-- An override that is accepted leaves a source that loads as one that loads,
and changes its settings in exactly the field that its key names, to the value
that its text was taken for. -/
theorem toSettings_override {src src' : Source} {assignment : String} {s : Settings}
    (hs : src.toSettings = .ok s) (ho : src.override .indexer assignment = .ok src') :
    ∃ a entry value v, Assignment.ofText? assignment = some a
      ∧ Registry.indexer.field? a.key = some entry
      ∧ a.key = flatKey entry.scope entry.field.key
      ∧ entry.field.kind.coerce? a.value = some value
      ∧ entry.field.kind.valueOf? (.scalar value) = some v
      ∧ (∃ s', src'.toSettings = .ok s')
      ∧ ∀ s', src'.toSettings = .ok s' ↔ s.IsUpdate entry.scope entry.field.key v s' := by
  obtain ⟨a, entry, value, ha, hentry, hvalue, hput, -⟩ := of_override_eq_ok ho
  obtain ⟨v, hv⟩ := FieldKind.fits_iff.mp (FieldKind.fits_of_coerce? hvalue)
  obtain ⟨hkey, hmem, hf⟩ := Registry.of_field?_eq_some hentry
  refine ⟨a, entry, value, v, ha, hentry, hkey, hvalue, hv, ?_⟩
  rw [entries_indexer] at hmem
  obtain ⟨p, -, hp⟩ := List.mem_map.mp hmem
  obtain ⟨hscope, howner⟩ := Prod.mk.inj hp
  rw [← hscope] at hput ⊢
  rw [← howner] at hf
  rw [toSettings_eq_ok_iff] at hs
  obtain ⟨s', hs', hupdate⟩ := Settings.exists_isUpdate_of_put? hs hf hv hput
  refine ⟨⟨s', toSettings_eq_ok_iff.mpr hs'⟩, fun t => ?_⟩
  rw [toSettings_eq_ok_iff, hs']
  constructor
  · intro h
    obtain rfl := Except.ok.inj h
    exact hupdate
  · intro ht
    rw [hupdate.unique ht]

theorem toSettings_override_attempts :
    let src : Source := ⟨.ofMembers [("base", .object [("api", .ofString "x")])], []⟩
    let src' : Source := ⟨.ofMembers [("base", .object [("api", .ofString "x"),
      ("request-retry-attempts", .scalar (.ofInt64 (-3)))])], ["base.request-retry-attempts"]⟩
    let s : Settings := { base := { api := "x" } }
    src.toSettings = .ok s
      ∧ src.override .indexer " base.request-retry-attempts = -3" = .ok src'
      ∧ (∃ s', src'.toSettings = .ok s')
      ∧ ∀ s', src'.toSettings = .ok s' ↔
        s.IsUpdate "base" "request-retry-attempts" (.int (-3)) s' := by
  intro src src' s
  have hs : src.toSettings = .ok s := rfl
  have ho : src.override .indexer " base.request-retry-attempts = -3" = .ok src' := rfl
  obtain ⟨a, entry, value, v, ha, hentry, -, hvalue, hv, h⟩ := toSettings_override hs ho
  obtain rfl := Option.some.inj ha
  obtain rfl := Option.some.inj hentry
  obtain rfl := Option.some.inj hvalue
  obtain rfl := Option.some.inj hv
  exact ⟨hs, ho, h⟩

end Source

end IndexerSettings
