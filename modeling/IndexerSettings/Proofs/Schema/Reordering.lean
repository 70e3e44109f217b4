import Mathlib.Data.List.Perm.Basic
import IndexerSettings.Proofs.Outcome
import IndexerSettings.Proofs.Schema.Keys
import IndexerSettings.Proofs.Schema.Registering

/-!
# Sections in another order

Whether sections can all be registered does not depend on their order, although
each is only compared with those before it (`Section.Registrable`).  The registry
that comes of them holds exactly these sections, each under its own scope, so
what is registered under a scope does not depend on the order either; and
everything else that a registry is asked follows from this
(`Registry.ofSections_anyOrder`).
-/

namespace IndexerSettings

open Outcome (bind_eq_ok_iff foldlM_eq_error_iff)

/-- Sections that have room beside each other: each has a scope, no two have the
same one, and none repeats a key. -/
structure Section.Registrable (sections : List Section) : Prop where
  hasScope : ∀ s ∈ sections, ∃ scope, s.scope = some scope
  distinct : (sections.map Section.scope).Nodup
  uniqueKeys : ∀ s ∈ sections, s.keys.Nodup

theorem Section.Registrable.perm {sections sections' : List Section}
    (h : Registrable sections) (hperm : sections.Perm sections') : Registrable sections' where
  hasScope s hs := h.hasScope s (hperm.mem_iff.mpr hs)
  distinct := (hperm.map Section.scope).nodup_iff.mp h.distinct
  uniqueKeys s hs := h.uniqueKeys s (hperm.mem_iff.mpr hs)

namespace Registry

variable {r r' : Registry} {sections : List Section} {scope : String} {s : Section}

/-! ## Which sections are registered -/

theorem entries_of_register (h : r.register s = .ok r') :
    ∃ scope, r'.entries = r.entries ++ [(scope, s)] := by
  obtain ⟨-, hr⟩ | ⟨_, _, -, -, hr⟩ | ⟨_, _, -, -, -, hr⟩ | ⟨scope, -, -, -, q, hr, hentries⟩ :=
    register_cases (r := r) (s := s)
  · cases hr.symm.trans h
  · cases hr.symm.trans h
  · cases hr.symm.trans h
  · obtain rfl := Except.ok.inj (hr.symm.trans h)
    exact ⟨scope, hentries⟩

theorem map_snd_entries_of_foldlM (h : sections.foldlM register r = .ok r') :
    r'.entries.map Prod.snd = r.entries.map Prod.snd ++ sections := by
  induction sections generalizing r with
  | nil =>
      obtain rfl := Except.ok.inj h
      exact (List.append_nil _).symm
  | cons s rest ih =>
      rw [List.foldlM_cons] at h
      obtain ⟨q, hq, hrest⟩ := bind_eq_ok_iff.mp h
      obtain ⟨scope, hentries⟩ := entries_of_register hq
      rw [ih hrest, hentries, List.map_append, List.append_assoc]
      rfl

theorem map_snd_entries (h : ofSections sections = .ok r) : r.entries.map Prod.snd = sections :=
  map_snd_entries_of_foldlM h

/-- Each section is registered under the scope that it has. -/
theorem mem_entries_iff (h : ofSections sections = .ok r) :
    (scope, s) ∈ r.entries ↔ s ∈ sections ∧ s.scope = some scope := by
  rw [← map_snd_entries h]
  constructor
  · intro he
    exact ⟨List.mem_map_of_mem he, r.scopeMatches _ he⟩
  · rintro ⟨hs, hscope⟩
    obtain ⟨e, he, rfl⟩ := List.mem_map.mp hs
    rw [r.scopeMatches e he] at hscope
    obtain rfl := Option.some.inj hscope
    exact he

/-! ## When there is a registry -/

theorem map_some_scopes {entries : Entries} (h : ∀ e ∈ entries, e.2.scope = some e.1) :
    (entries.map Prod.fst).map some = (entries.map Prod.snd).map Section.scope := by
  rw [List.map_map, List.map_map]
  exact List.map_congr_left fun e he => (h e he).symm

theorem registrable_of_ofSections (h : ofSections sections = .ok r) :
    Section.Registrable sections := by
  rw [← map_snd_entries h]
  refine ⟨List.forall_mem_map.mpr fun e he => ⟨e.1, r.scopeMatches e he⟩, ?_,
    List.forall_mem_map.mpr r.uniqueKeys⟩
  rw [← map_some_scopes r.scopeMatches]
  exact r.distinct.map fun _ _ => Option.some.inj

theorem exists_entries (h : ∀ s ∈ sections, ∃ scope, s.scope = some scope) :
    ∃ entries : Entries, entries.map Prod.snd = sections
      ∧ ∀ e ∈ entries, e.2.scope = some e.1 := by
  induction sections with
  | nil => exact ⟨[], rfl, nofun⟩
  | cons s rest ih =>
      obtain ⟨⟨scope, hscope⟩, hrest⟩ := List.forall_mem_cons.mp h
      obtain ⟨entries, hentries, hscopes⟩ := ih hrest
      exact ⟨(scope, s) :: entries, congrArg (s :: ·) hentries,
        List.forall_mem_cons.mpr ⟨hscope, hscopes⟩⟩

/-- The registry can be written down, and a registry is what registering its
sections gives. -/
theorem exists_ofSections_iff :
    (∃ r, ofSections sections = .ok r) ↔ Section.Registrable sections := by
  constructor
  · rintro ⟨r, hr⟩
    exact registrable_of_ofSections hr
  · intro h
    obtain ⟨entries, rfl, hscopes⟩ := exists_entries h.hasScope
    have hdistinct : (entries.map Prod.fst).Nodup := by
      have hnd := h.distinct
      rw [← map_some_scopes hscopes] at hnd
      exact hnd.of_map
    have hkeys : ∀ e ∈ entries, e.2.keys.Nodup :=
      fun e he => h.uniqueKeys e.2 (List.mem_map_of_mem he)
    exact ⟨_, ofSections_entries ⟨entries, hscopes, hdistinct, hkeys⟩⟩

/-! ## What a registry answers -/

theorem section?_eq_some_iff : r.section? scope = some s ↔ (scope, s) ∈ r.entries :=
  ⟨mem_entries_of_section?_eq_some, section?_of_mem⟩

/-- Registries with the same sections under the same scopes. -/
def SameSections (r r' : Registry) : Prop := ∀ scope, r.section? scope = r'.section? scope

namespace SameSections

theorem of_perm {sections' : List Section} (hperm : sections.Perm sections')
    (h : ofSections sections = .ok r) (h' : ofSections sections' = .ok r') :
    r.SameSections r' := by
  intro scope
  refine Option.ext fun s => ?_
  rw [section?_eq_some_iff, section?_eq_some_iff, mem_entries_iff h, mem_entries_iff h',
    hperm.mem_iff]

theorem mem_entries_iff (h : r.SameSections r') (e : String × Section) :
    e ∈ r.entries ↔ e ∈ r'.entries := by
  rw [← section?_eq_some_iff, ← section?_eq_some_iff, h e.1]

theorem validKeys_eq (h : r.SameSections r') : r.validKeys = r'.validKeys := by
  refine KeySet.ext_mem fun k => ?_
  rw [validKeys, validKeys, KeySet.mem_ofList, KeySet.mem_ofList, mem_flatKeys, mem_flatKeys]
  simp only [h.mem_entries_iff]

theorem unknownKeys_eq (h : r.SameSections r') (supplied : List String) :
    r.unknownKeys supplied = r'.unknownKeys supplied := by
  rw [unknownKeys, unknownKeys, h.validKeys_eq]

theorem sectionKeys_eq (h : r.SameSections r') (scope : String) :
    r.sectionKeys scope = r'.sectionKeys scope := by
  rw [sectionKeys, sectionKeys, h scope]

theorem field?_eq (h : r.SameSections r') (key : String) : r.field? key = r'.field? key := by
  simp only [field?, h _]

end SameSections

/-- Sections are registered in every order or in none, as it is with their
scopes and keys, and the registries of all orders answer alike.  Where they are
refused, the error is that of the first that those before it leave no room for. -/
theorem ofSections_anyOrder {sections sections' : List Section}
    (hperm : sections.Perm sections') :
    ((∃ r, ofSections sections = .ok r) ↔ Section.Registrable sections)
    ∧ ((∃ r, ofSections sections = .ok r) ↔ ∃ r', ofSections sections' = .ok r')
    ∧ (∀ r r', ofSections sections = .ok r → ofSections sections' = .ok r' →
      r.validKeys = r'.validKeys
      ∧ (∀ scope, r.section? scope = r'.section? scope)
      ∧ (∀ scope, r.sectionKeys scope = r'.sectionKeys scope)
      ∧ (∀ key, r.field? key = r'.field? key)
      ∧ ∀ supplied, r.unknownKeys supplied = r'.unknownKeys supplied)
    ∧ ∀ e, ofSections sections = .error e ↔
      ∃ before s after r, sections = before ++ s :: after ∧ ofSections before = .ok r
        ∧ r.register s = .error e := by
  refine ⟨exists_ofSections_iff, ?_, fun r r' hr hr' => ?_, fun e => foldlM_eq_error_iff⟩
  · rw [exists_ofSections_iff, exists_ofSections_iff]
    exact ⟨fun h => h.perm hperm, fun h => h.perm hperm.symm⟩
  · have hsame := SameSections.of_perm hperm hr hr'
    exact ⟨hsame.validKeys_eq, hsame, hsame.sectionKeys_eq, hsame.field?_eq, hsame.unknownKeys_eq⟩

theorem ofSections_anyOrder_swapped :
    let part : Section := ⟨"part", some "b", [⟨"k", .int, ""⟩], []⟩
    let first : Section := ⟨"first", some "a", [⟨"b.k", .string, ""⟩], []⟩
    let second : Section := ⟨"second", some "a.b", [⟨"x", .bool, ""⟩], [part]⟩
    [first, second].Perm [second, first]
      ∧ ∃ r r', ofSections [first, second] = .ok r ∧ ofSections [second, first] = .ok r'
        ∧ r.entries.head? ≠ r'.entries.head?
        ∧ r.validKeys = r'.validKeys
        ∧ r.field? "a.b.k" = r'.field? "a.b.k" := by
  intro part first second
  have hperm : [first, second].Perm [second, first] := List.Perm.swap second first []
  obtain ⟨r, hr, hhead⟩ : ∃ r, ofSections [first, second] = .ok r
      ∧ r.entries.head? = some ("a", first) := ⟨_, rfl, rfl⟩
  obtain ⟨r', hr', hhead'⟩ : ∃ r', ofSections [second, first] = .ok r'
      ∧ r'.entries.head? = some ("a.b", second) := ⟨_, rfl, rfl⟩
  obtain ⟨hkeys, -, -, hfield, -⟩ := (ofSections_anyOrder hperm).2.2.1 r r' hr hr'
  refine ⟨hperm, r, r', hr, hr', ?_, hkeys, hfield "a.b.k"⟩
  rw [hhead, hhead']
  intro heq
  exact absurd (Prod.mk.inj (Option.some.inj heq)).1 (by decide)

end Registry

end IndexerSettings
