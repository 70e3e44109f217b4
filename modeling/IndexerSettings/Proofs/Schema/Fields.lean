import Mathlib.Data.List.Nodup
import IndexerSettings.Proofs.Text.Trimming
import IndexerSettings.Schema.Registry

/-!
# Fields by their keys

Which key of a section is found to be repeated, and what a flat key is looked
up as: the section that its scope is registered for, and a field among all of
that section.
-/

namespace IndexerSettings

/-- Where no two elements have the same key, each is found by its own. -/
theorem find?_of_nodup_keys {α : Type} {key : α → String} {l : List α} (hnd : (l.map key).Nodup)
    {a : α} (ha : a ∈ l) : l.find? (key · == key a) = some a := by
  have hsome : (l.find? (key · == key a)).isSome := by
    rw [List.find?_isSome]
    exact ⟨a, ha, beq_self_eq_true _⟩
  obtain ⟨b, hb⟩ := Option.isSome_iff_exists.mp hsome
  have hkey : key b = key a := by simpa using List.find?_some hb
  rw [hb, List.inj_on_of_nodup_map hnd (List.mem_of_find?_eq_some hb) ha hkey]

theorem find?_of_notMem_keys {α : Type} {key : α → String} {l : List α} {name : String}
    (h : name ∉ l.map key) : l.find? (key · == name) = none := by
  rw [List.find?_eq_none]
  intro a ha hkey
  exact h (List.mem_map.mpr ⟨a, ha, beq_iff_eq.mp hkey⟩)

namespace Section

variable {s : Section} {key : String} {f : Field}

theorem mem_of_field?_eq_some (h : s.field? key = some f) : f ∈ s.allFields :=
  List.mem_of_find?_eq_some h

theorem key_of_field?_eq_some (h : s.field? key = some f) : f.key = key := by
  simpa using List.find?_some h

theorem field?_of_mem (hnd : s.keys.Nodup) (hf : f ∈ s.allFields) : s.field? f.key = some f :=
  find?_of_nodup_keys hnd hf

/-! ## Repeated keys -/

/-- The first name of a list that has been in it before. -/
def IsFirstRepeated (names : List String) (k : String) : Prop :=
  ∃ before after, names = before ++ k :: after ∧ before.Nodup ∧ k ∈ before

theorem firstRepeated?_eq_some_iff {seen names : List String} {k : String} :
    firstRepeated? seen names = some k ↔
      ∃ before after, names = before ++ k :: after ∧ before.Nodup
        ∧ (∀ b ∈ before, b ∉ seen) ∧ (k ∈ seen ∨ k ∈ before) := by
  induction names generalizing seen with
  | nil => simp [firstRepeated?]
  | cons n rest ih =>
      rw [firstRepeated?]
      split
      · rename_i hn
        rw [Option.some.injEq]
        constructor
        · rintro rfl
          exact ⟨[], rest, rfl, .nil, List.forall_mem_nil _, .inl hn⟩
        · rintro ⟨before, after, heq, -, hfresh, -⟩
          cases before with
          | nil => exact (List.cons.inj heq).1
          | cons b before =>
              obtain ⟨rfl, -⟩ := List.cons.inj heq
              exact absurd hn (hfresh n List.mem_cons_self)
      · rename_i hn
        rw [ih]
        constructor
        · rintro ⟨before, after, rfl, hnd, hfresh, hk⟩
          have hnew : n ∉ before := fun hmem => hfresh n hmem List.mem_cons_self
          refine ⟨n :: before, after, rfl, List.nodup_cons.mpr ⟨hnew, hnd⟩, ?_, ?_⟩
          · rintro b hb
            rcases List.mem_cons.mp hb with rfl | hb
            · exact hn
            · exact fun hseen => hfresh b hb (List.mem_cons_of_mem _ hseen)
          · rcases hk with hk | hk
            · rcases List.mem_cons.mp hk with rfl | hk
              · exact .inr List.mem_cons_self
              · exact .inl hk
            · exact .inr (List.mem_cons_of_mem _ hk)
        · rintro ⟨before, after, heq, hnd, hfresh, hk⟩
          cases before with
          | nil =>
              obtain ⟨rfl, -⟩ := List.cons.inj heq
              exact absurd (hk.resolve_right List.not_mem_nil) hn
          | cons b before =>
              obtain ⟨rfl, rfl⟩ := List.cons.inj heq
              obtain ⟨hnew, hnd⟩ := List.nodup_cons.mp hnd
              refine ⟨before, after, rfl, hnd, fun b hb hseen => ?_, ?_⟩
              · rcases List.mem_cons.mp hseen with rfl | hseen
                · exact hnew hb
                · exact hfresh b (List.mem_cons_of_mem _ hb) hseen
              · rcases hk with hk | hk
                · exact .inl (List.mem_cons_of_mem _ hk)
                · rcases List.mem_cons.mp hk with rfl | hk
                  · exact .inl List.mem_cons_self
                  · exact .inr hk

theorem repeatedKey?_eq_some_iff :
    s.repeatedKey? = some key ↔ IsFirstRepeated s.keys key := by
  rw [repeatedKey?, firstRepeated?_eq_some_iff, IsFirstRepeated]
  simp

end Section

namespace Registry

/-- A key is split where its scope ends, if that has no dot. -/
theorem splitKey?_eq_some_iff {key scope declared : String} :
    splitKey? key = some (scope, declared) ↔
      key = flatKey scope declared ∧ '.' ∉ scope.toList := by
  have hkey : key = flatKey scope declared ↔
      key.toList = scope.toList ++ '.' :: declared.toList := by
    rw [← String.toList_inj]
    simp [flatKey]
  rw [hkey, ← Text.split_iff]
  simp only [splitKey?]
  split
  · rename_i hnil
    simp [hnil]
  · rename_i c rest hrest
    rw [hrest, Text.eq_of_dropWhile_eq_cons hrest]
    simp only [Option.some.injEq, Prod.mk.injEq, List.cons.injEq, true_and]
    constructor
    · rintro ⟨rfl, rfl⟩
      exact ⟨String.toList_ofList.symm, String.toList_ofList.symm⟩
    · rintro ⟨hscope, rfl⟩
      exact ⟨hscope ▸ String.ofList_toList, String.ofList_toList⟩

theorem mem_entries_of_section?_eq_some {r : Registry} {scope : String} {s : Section}
    (h : r.section? scope = some s) : (scope, s) ∈ r.entries := by
  obtain ⟨e, he, rfl⟩ := Option.map_eq_some_iff.mp h
  have hscope : e.1 = scope := by simpa using List.find?_some he
  exact hscope ▸ List.mem_of_find?_eq_some he

theorem section?_of_mem {r : Registry} {scope : String} {s : Section}
    (h : (scope, s) ∈ r.entries) : r.section? scope = some s := by
  rw [section?, find?_of_nodup_keys r.distinct h]
  rfl

/-- A flat key names a field of a registered section. -/
theorem of_field?_eq_some {r : Registry} {key : String} {entry : FieldEntry}
    (h : r.field? key = some entry) :
    key = flatKey entry.scope entry.field.key
    ∧ (entry.scope, entry.owner) ∈ r.entries
    ∧ entry.field ∈ entry.owner.allFields := by
  unfold field? at h
  obtain ⟨⟨scope, declared⟩, hsplit, h⟩ := Option.bind_eq_some_iff.mp h
  obtain ⟨owner, howner, h⟩ := Option.bind_eq_some_iff.mp h
  obtain ⟨f, hf, h⟩ := Option.bind_eq_some_iff.mp h
  obtain rfl := Option.some.inj h
  have hkey : f.key = declared := Section.key_of_field?_eq_some hf
  exact ⟨hkey ▸ (splitKey?_eq_some_iff.mp hsplit).1, mem_entries_of_section?_eq_some howner,
    Section.mem_of_field?_eq_some hf⟩

end Registry

end IndexerSettings
