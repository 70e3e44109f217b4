import IndexerSettings.Proofs.Schema.Fields
import IndexerSettings.Proofs.Settings.Sections

/-!
# Settings from documents

The settings of a document are put together from its sections: each section
comes from what stands under its scope, or is the default where nothing does,
and no other member counts (`Settings.ofDocument_eq_ok_iff`).  Seen from the
fields, `Settings.value?` is what a section says under a key, and its values
determine the settings.
-/

namespace IndexerSettings

open Json (Member Ascending lookup_cons_self lookup_cons_of_ne
  lookup_eq_none_of_not_mem lookup_map ext_lookup)
open FieldValues (supplied? supply)
open Outcome (map_eq_ok_iff bind_eq_ok_iff)

namespace Settings

namespace Part

/-- A section from the value under its scope, if there is one. -/
def readOr (p : Part) (otherwise : p.Carrier) : Option Json → Except Mismatch p.Carrier
  | none => .ok otherwise
  | some j => p.ofJson j

/-- What a member of a document is taken for: the section of its name, or
nothing. -/
theorem assign_bindings (s : Settings) (m : Member) :
    (∃ p : Part, m.1 = p.scope
      ∧ Binding.assign bindings s m = (p.ofJson m.2).map (p.put s))
    ∨ (∀ p : Part, p.scope ≠ m.1) ∧ Binding.assign bindings s m = .ok s := by
  obtain ⟨name, j⟩ := m
  by_cases hname : ∃ p : Part, name = p.scope
  · obtain ⟨p, rfl⟩ := hname
    refine .inl ⟨p, rfl, ?_⟩
    cases p <;> rfl
  · have hne : ∀ p : Part, p.scope ≠ name := fun p hp => hname ⟨p, hp.symm⟩
    have hkeys : name ∉ bindings.map Binding.key :=
      show name ∉ all.map scope from notMem_map_scope hne
    refine .inr ⟨hne, ?_⟩
    rw [Binding.assign, find?_of_notMem_keys hkeys]

theorem assignAll_bindings_eq_ok_iff {members : List Member}
    (hnames : (members.map Prod.fst).Nodup) {s s' : Settings} :
    Binding.assignAll bindings s members = .ok s' ↔
      ∀ p : Part, p.readOr (p.get s) (members.lookup p.scope) = .ok (p.get s') := by
  induction members generalizing s with
  | nil =>
      constructor
      · intro h p
        rw [Except.ok.inj h]
        rfl
      · intro h
        have heq : s = s' := ext_get fun p => Except.ok.inj (h p)
        rw [heq]
        rfl
  | cons m rest ih =>
      obtain ⟨hnew, hrest⟩ := List.nodup_cons.mp hnames
      have hnone := lookup_eq_none_of_not_mem hnew
      have hcons : Binding.assignAll bindings s (m :: rest)
          = Binding.assign bindings s m >>= (Binding.assignAll bindings · rest) :=
        List.foldlM_cons ..
      rw [hcons, bind_eq_ok_iff]
      rcases assign_bindings s m with ⟨q, hq, hassign⟩ | ⟨hne, hassign⟩
      · rw [hassign]
        simp only [map_eq_ok_iff, ih hrest]
        constructor
        · rintro ⟨_, ⟨x, hx, rfl⟩, hall⟩ p
          by_cases hp : p = q
          · subst hp
            have hget := hall p
            rw [← hq, hnone, get_put] at hget
            rw [← hq, lookup_cons_self, ← Except.ok.inj hget]
            exact hx
          · have hscope : p.scope ≠ m.1 := fun h => hp (scope_injective (h.trans hq))
            have hget := hall p
            rwa [get_put_of_ne hp, ← lookup_cons_of_ne hscope] at hget
        · intro h
          have hx := h q
          rw [← hq, lookup_cons_self] at hx
          refine ⟨_, ⟨_, hx, rfl⟩, fun p => ?_⟩
          by_cases hp : p = q
          · subst hp
            rw [← hq, hnone, get_put]
            rfl
          · have hscope : p.scope ≠ m.1 := fun h => hp (scope_injective (h.trans hq))
            have hget := h p
            rwa [lookup_cons_of_ne hscope, ← get_put_of_ne hp s (q.get s')] at hget
      · rw [hassign]
        simp only [Except.ok.injEq, exists_eq_left', ih hrest]
        refine forall_congr' fun p => ?_
        rw [lookup_cons_of_ne (hne p)]

end Part

/-- The settings of a document are those of its sections, each read on its
own. -/
theorem ofDocument_eq_ok_iff {d : Document} {s : Settings} :
    ofDocument d = .ok s ↔
      ∀ p : Part, p.readOr p.default (d.get? p.scope) = .ok (p.get s) := by
  have hnames := Ascending.nodup d.ordered.1
  rw [ofDocument, Part.assignAll_bindings_eq_ok_iff hnames]
  simp only [Part.get_default, Document.get?]

/-- Sections with some property each make up settings. -/
theorem exists_of_parts {P : (p : Part) → p.Carrier → Prop} (h : ∀ p, ∃ x, P p x) :
    ∃ s : Settings, ∀ p : Part, P p (p.get s) := by
  obtain ⟨database, hdatabase⟩ := h .database
  obtain ⟨log, hlog⟩ := h .log
  obtain ⟨probe, hprobe⟩ := h .probe
  obtain ⟨base, hbase⟩ := h .base
  obtain ⟨flags, hflags⟩ := h .flags
  refine ⟨⟨database, log, probe, base, flags⟩, fun p => ?_⟩
  cases p <;> assumption

theorem exists_ofDocument_iff {d : Document} :
    (∃ s, ofDocument d = .ok s) ↔
      ∀ p : Part, ∃ x, p.readOr p.default (d.get? p.scope) = .ok x := by
  simp only [ofDocument_eq_ok_iff]
  constructor
  · rintro ⟨s, hs⟩ p
    exact ⟨p.get s, hs p⟩
  · intro h
    exact exists_of_parts h

/-! ## Values -/

theorem value?_scope (s : Settings) (p : Part) (key : String) :
    s.value? p.scope key = (p.values (p.get s)).lookup key := by
  cases p <;> rfl

theorem value?_eq_none (s : Settings) {scope : String}
    (h : ∀ p : Part, p.scope ≠ scope) (key : String) : s.value? scope key = none := by
  have hscope : scope ∉ s.values.map Prod.fst :=
    show scope ∉ Part.all.map Part.scope from Part.notMem_map_scope h
  rw [value?, lookup_eq_none_of_not_mem hscope]
  rfl

namespace Part

/-- Every declared field has a value, of the kind declared. -/
theorem exists_lookup_values {p : Part} {f : Field} (hf : f ∈ p.owner.allFields)
    (x : p.Carrier) : ∃ v, (p.values x).lookup f.key = some v ∧ v.kind = f.kind := by
  have hkinds := p.lookup_kinds f hf
  rw [← p.map_kind_values x, lookup_map fun _ => FieldValue.kind] at hkinds
  exact Option.map_eq_some_iff.mp hkinds

theorem map_fst_values (p : Part) (x : p.Carrier) :
    (p.values x).map Prod.fst = p.kinds.map Prod.fst := by
  rw [← p.map_kind_values x, List.map_map]
  rfl

/-- Nothing else has a value. -/
theorem lookup_values_eq_none {p : Part} {key : String} (h : key ∉ p.owner.keys)
    (x : p.Carrier) : (p.values x).lookup key = none := by
  refine lookup_eq_none_of_not_mem fun hmem => h ?_
  rw [map_fst_values] at hmem
  obtain ⟨e, he, rfl⟩ := List.mem_map.mp hmem
  exact p.mem_keys_of_mem_kinds e he

/-- A section is what the values of its declared fields are. -/
theorem ext_lookup_values {p : Part} {x : p.Carrier} {vals : FieldValues}
    (hnames : vals.map Prod.fst = p.kinds.map Prod.fst)
    (h : ∀ f ∈ p.owner.allFields, (p.values x).lookup f.key = vals.lookup f.key) :
    p.values x = vals := by
  refine ext_lookup ((p.map_fst_values x).trans hnames.symm) ?_ fun key hkey => ?_
  · rw [map_fst_values]
    exact p.nodup_kinds
  · rw [map_fst_values] at hkey
    obtain ⟨e, he, rfl⟩ := List.mem_map.mp hkey
    obtain ⟨f, hf, hfkey⟩ := List.mem_map.mp (p.mem_keys_of_mem_kinds e he)
    rw [← hfkey]
    exact h f hf

/-- The supplied values of declared fields. -/
theorem lookup_supply {p : Part} {f : Field} (hf : f ∈ p.owner.allFields)
    (members : List Member) :
    (supply p.owner.allFields members (p.values p.default)).lookup f.key
      = ((members.lookup f.key).bind f.kind.valueOf?).or
          ((p.values p.default).lookup f.key) := by
  obtain ⟨v, hv, -⟩ := exists_lookup_values hf p.default
  have hsupplied : supplied? p.owner.allFields members f.key
      = (members.lookup f.key).bind f.kind.valueOf? := by
    rw [supplied?, find?_of_nodup_keys p.nodup_keys hf]
    rfl
  rw [supply, lookup_map fun key v => (supplied? p.owner.allFields members key).getD v,
    hv, hsupplied]
  cases (members.lookup f.key).bind f.kind.valueOf? <;> rfl

end Part

/-- Settings with the same values in all fields are the same. -/
theorem ext_value? {s t : Settings}
    (h : ∀ p : Part, ∀ f ∈ p.owner.allFields,
      s.value? p.scope f.key = t.value? p.scope f.key) : s = t := by
  refine Part.ext_get fun p => p.values_injective ?_
  refine Part.ext_lookup_values (p.map_fst_values _) fun f hf => ?_
  rw [← value?_scope, ← value?_scope]
  exact h p f hf

end Settings

/-! ## Sections from members -/

/-- What a field is given: what the value supplied for it is, or the default
where none is supplied. -/
def Field.Takes (f : Field) (scope : String) : Option Json → FieldValue → Prop
  | some j, v => f.kind.valueOf? j = some v
  | none, v => Settings.value? {} scope f.key = some v

namespace Settings.Part

variable {p : Part} {members : List Member}

theorem takes_iff (haccepts : p.Accepts members) {f : Field} (hf : f ∈ p.owner.allFields)
    {v : FieldValue} :
    f.Takes p.scope (members.lookup f.key) v ↔
      (supply p.owner.allFields members (p.values p.default)).lookup f.key = some v := by
  rw [lookup_supply hf]
  cases hj : members.lookup f.key with
  | none =>
      rw [Field.Takes, value?_scope, get_default]
      rfl
  | some j =>
      obtain ⟨w, hw⟩ := FieldKind.fits_iff.mp (haccepts f hf j hj)
      simp [Field.Takes, hw]

/-- A section that is an object, field by field. -/
theorem ofJson_object_eq_ok_iff_takes (hnames : (members.map Prod.fst).Nodup)
    {x : p.Carrier} :
    p.ofJson (.object members) = .ok x ↔
      ∀ f ∈ p.owner.allFields, ∃ v,
        (p.values x).lookup f.key = some v ∧ f.Takes p.scope (members.lookup f.key) v := by
  rw [ofJson_object_eq_ok_iff hnames]
  constructor
  · rintro ⟨haccepts, hvalues⟩ f hf
    obtain ⟨v, hv, -⟩ := exists_lookup_values hf x
    exact ⟨v, hv, (takes_iff haccepts hf).mpr (hvalues ▸ hv)⟩
  · intro hall
    have haccepts : p.Accepts members := by
      intro f hf j hj
      obtain ⟨v, -, hv⟩ := hall f hf
      rw [hj] at hv
      exact FieldKind.fits_iff.mpr ⟨v, hv⟩
    refine ⟨haccepts, ext_lookup_values ?_ fun f hf => ?_⟩
    · rw [supply, List.map_map]
      exact p.map_fst_values p.default
    · obtain ⟨v, hv, htakes⟩ := hall f hf
      rw [hv, (takes_iff haccepts hf).mp htakes]

end Settings.Part

/-! ## Sections that are objects -/

/-- The value at a key of the object under a scope. -/
def Document.at? (d : Document) (scope key : String) : Option Json :=
  (d.fields? scope).bind (·.lookup key)

/-- What a document makes the value of a field: the one supplied for it, or the
default where there is none. -/
def Document.Gives (d : Document) (scope : String) (f : Field) (v : FieldValue) : Prop :=
  match d.at? scope f.key with
  | some j => f.kind.valueOf? j = some v
  | none => Settings.value? {} scope f.key = some v

theorem Document.gives_iff_takes {d : Document} {scope : String} {f : Field} {v : FieldValue} :
    d.Gives scope f v ↔ f.Takes scope (d.at? scope f.key) v := by
  rw [Gives]
  cases d.at? scope f.key <;> exact Iff.rfl

namespace Settings.Part

variable {p : Part} {d : Document} {members : List Member}

theorem at?_scope (h : d.fields? p.scope = some members) (key : String) :
    d.at? p.scope key = members.lookup key := by
  rw [Document.at?, h]
  rfl

/-- An absent section reads as an empty one. -/
theorem readOr_of_fields? (h : d.fields? p.scope = some members) :
    p.readOr p.default (d.get? p.scope) = p.ofJson (.object members) := by
  unfold Document.fields? at h
  split at h
  · rename_i hget
    obtain rfl := Option.some.inj h
    rw [hget]
    cases p <;> rfl
  · rename_i hget
    obtain rfl := Option.some.inj h
    rw [hget]
    rfl
  · cases h

theorem readOr_eq_ok_iff (h : d.fields? p.scope = some members) {x : p.Carrier} :
    p.readOr p.default (d.get? p.scope) = .ok x ↔
      p.Accepts members
      ∧ p.values x = supply p.owner.allFields members (p.values p.default) := by
  have hordered := Document.ordered_of_fields? h
  rw [readOr_of_fields? h]
  exact ofJson_object_eq_ok_iff hordered.1.nodup

theorem exists_readOr_iff (h : d.fields? p.scope = some members) :
    (∃ x, p.readOr p.default (d.get? p.scope) = .ok x) ↔ p.Accepts members := by
  have hordered := Document.ordered_of_fields? h
  rw [readOr_of_fields? h]
  exact exists_ofJson_object_iff hordered.1.nodup

/-- A section that is an object, or absent, field by field. -/
theorem readOr_eq_ok_iff_gives (h : d.fields? p.scope = some members) {x : p.Carrier} :
    p.readOr p.default (d.get? p.scope) = .ok x ↔
      ∀ f ∈ p.owner.allFields, ∃ v,
        (p.values x).lookup f.key = some v ∧ d.Gives p.scope f v := by
  have hordered := Document.ordered_of_fields? h
  rw [readOr_of_fields? h, ofJson_object_eq_ok_iff_takes hordered.1.nodup]
  simp only [Document.gives_iff_takes, at?_scope h]

end Settings.Part

end IndexerSettings
