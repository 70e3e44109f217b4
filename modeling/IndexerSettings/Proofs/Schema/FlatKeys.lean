import Mathlib.Algebra.GroupWithZero.Nat
import Mathlib.Data.List.Dedup
import Mathlib.Data.List.Perm.Basic
import IndexerSettings.Proofs.Schema.Fields
import IndexerSettings.Proofs.Schema.Joined
import IndexerSettings.Proofs.Schema.Keys

/-!
# The namespace of flat keys

A flat key is a scope and the key of a field with a dot between them.  Where the
scopes hold no dots the first one of a flat key tells the two apart, so the key
names one field, and looking it up finds exactly that (`Registry.field?_exact`).

Nothing keeps dots out of scopes, though.  Two fields then share a flat key if
and only if the scope of one goes on where that of the other ends
(`flatKey_eq_iff`), and the flat keys are as many as the fields if and only if
no two of them do (`Registry.flatKeys_exact`).
-/

namespace IndexerSettings

/-! ## Texts joined by a dot -/

/-- A scope and a key that are another scope and key with the dot moved to the
right: `a` and `x.k`, where the others are `a.x` and `k`. -/
def Overlaps (scope key scope' key' : String) : Prop :=
  ∃ text, scope' = flatKey scope text ∧ key = flatKey text key'

theorem flatKey_assoc (scope text key : String) :
    flatKey (flatKey scope text) key = flatKey scope (flatKey text key) := by
  simp [flatKey, String.append_assoc]

/-- Of two texts before a dot one begins with the other. -/
theorem overlaps_of_append {scope key scope' key' : String} {more : List Char}
    (hscope : scope'.toList = scope.toList ++ more)
    (hkey : '.' :: key.toList = more ++ '.' :: key'.toList) :
    (scope = scope' ∧ key = key') ∨ Overlaps scope key scope' key' := by
  cases more with
  | nil =>
      rw [List.append_nil] at hscope
      obtain ⟨-, hkey⟩ := List.cons.inj hkey
      exact .inl ⟨(String.toList_inj.mp hscope).symm, String.toList_inj.mp hkey⟩
  | cons c text =>
      obtain ⟨rfl, hrest⟩ := List.cons.inj hkey
      refine .inr ⟨String.ofList text, String.toList_inj.mp ?_, String.toList_inj.mp ?_⟩
      · rw [hscope, toList_flatKey, String.toList_ofList]
      · rw [toList_flatKey, String.toList_ofList]
        exact hrest

theorem flatKey_eq_iff {scope key scope' key' : String} :
    flatKey scope key = flatKey scope' key' ↔
      (scope = scope' ∧ key = key')
      ∨ Overlaps scope key scope' key' ∨ Overlaps scope' key' scope key := by
  constructor
  · intro h
    have hchars := congrArg String.toList h
    rw [toList_flatKey, toList_flatKey] at hchars
    rcases List.append_eq_append_iff.mp hchars with ⟨more, hscope, hkey⟩ | ⟨more, hscope, hkey⟩
    · exact (overlaps_of_append hscope hkey).imp_right .inl
    · rcases overlaps_of_append hscope hkey with ⟨rfl, rfl⟩ | hoverlaps
      · exact .inl ⟨rfl, rfl⟩
      · exact .inr (.inr hoverlaps)
  · rintro (⟨rfl, rfl⟩ | ⟨text, rfl, rfl⟩ | ⟨text, rfl, rfl⟩)
    · rfl
    · rw [flatKey_assoc]
    · rw [flatKey_assoc]

theorem dot_mem_of_overlaps {scope key scope' key' : String}
    (h : Overlaps scope key scope' key') : '.' ∈ scope'.toList := by
  obtain ⟨text, rfl, -⟩ := h
  rw [toList_flatKey]
  exact List.mem_append_right _ List.mem_cons_self

/-! ## Sets of keys -/

namespace KeySet

theorem perm_dedup_ofList (keys : List String) : (ofList keys).toList.Perm keys.dedup := by
  have hnd : (ofList keys).toList.Nodup := (ofList keys).ascending.imp Std.ne_of_lt
  refine (List.perm_ext_iff_of_nodup hnd keys.nodup_dedup).mpr fun k => ?_
  rw [mem_ofList, List.mem_dedup]

/-- Nothing is lost in a set exactly if nothing was repeated. -/
theorem size_ofList_iff {keys : List String} :
    (ofList keys).size = keys.length ↔ keys.Nodup := by
  rw [size, (perm_dedup_ofList keys).length_eq]
  constructor
  · intro h
    rw [← List.dedup_eq_self]
    exact (List.dedup_sublist keys).eq_of_length h
  · intro h
    rw [h.dedup]

end KeySet

/-! ## Declared fields -/

namespace FieldEntry

def flatKey (l : FieldEntry) : String := IndexerSettings.flatKey l.scope l.field.key

/-- The two have the same flat key, for the scope of the second goes on where
that of the first ends. -/
def Overlaps (l l' : FieldEntry) : Prop :=
  IndexerSettings.Overlaps l.scope l.field.key l'.scope l'.field.key

end FieldEntry

namespace Registry

variable {r : Registry} {l l' : FieldEntry} {key : String}

/-- Every registered section with each of its fields. -/
def declared (r : Registry) : List FieldEntry :=
  r.entries.flatMap fun e => e.2.allFields.map fun f => ⟨e.1, e.2, f⟩

theorem mem_declared :
    l ∈ r.declared ↔ (l.scope, l.owner) ∈ r.entries ∧ l.field ∈ l.owner.allFields := by
  rw [declared, List.mem_flatMap]
  simp only [List.mem_map]
  constructor
  · rintro ⟨e, he, f, hf, rfl⟩
    exact ⟨he, hf⟩
  · rintro ⟨he, hf⟩
    exact ⟨_, he, _, hf, rfl⟩

theorem flatKeys_eq_map_declared (r : Registry) :
    r.flatKeys = r.declared.map FieldEntry.flatKey := by
  rw [flatKeys, declared, List.map_flatMap]
  simp only [Section.keysUnder, Section.keys, List.map_map]
  rfl

theorem length_declared (r : Registry) :
    r.declared.length = (r.entries.map fun e => e.2.allFields.length).sum := by
  simp [declared, List.length_flatMap]

/-- A scope is registered once, and its section declares a key once. -/
theorem eq_of_declared (hl : l ∈ r.declared) (hl' : l' ∈ r.declared)
    (hscope : l.scope = l'.scope) (hkey : l.field.key = l'.field.key) : l = l' := by
  obtain ⟨scope, owner, f⟩ := l
  obtain ⟨scope', owner', f'⟩ := l'
  obtain ⟨he, hf⟩ := mem_declared.mp hl
  obtain ⟨he', hf'⟩ := mem_declared.mp hl'
  obtain ⟨rfl, rfl⟩ := Prod.mk.inj (List.inj_on_of_nodup_map r.distinct he he' hscope)
  obtain rfl : f = f' := List.inj_on_of_nodup_map (r.uniqueKeys _ he) hf hf' hkey
  rfl

theorem nodup_declared (r : Registry) : r.declared.Nodup := by
  refine List.nodup_flatMap.mpr ⟨fun e he => ?_, ?_⟩
  · have hfields : e.2.allFields.Nodup := (r.uniqueKeys e he).of_map
    exact hfields.map fun f f' h => (FieldEntry.mk.inj h).2.2
  · have hscopes := List.pairwise_map.mp r.distinct
    refine hscopes.imp fun {e e'} hne l hl hl' => ?_
    obtain ⟨f, -, rfl⟩ := List.mem_map.mp hl
    obtain ⟨f', -, heq⟩ := List.mem_map.mp hl'
    exact hne (FieldEntry.mk.inj heq).1.symm

theorem flatKey_eq_iff_of_declared (hl : l ∈ r.declared) (hl' : l' ∈ r.declared) :
    l.flatKey = l'.flatKey ↔ l = l' ∨ l.Overlaps l' ∨ l'.Overlaps l := by
  rw [FieldEntry.flatKey, FieldEntry.flatKey, flatKey_eq_iff]
  refine or_congr_left ⟨fun h => eq_of_declared hl hl' h.1 h.2, ?_⟩
  rintro rfl
  exact ⟨rfl, rfl⟩

theorem mem_validKeys : key ∈ r.validKeys ↔ ∃ l ∈ r.declared, l.flatKey = key := by
  have hmem : key ∈ r.validKeys ↔ key ∈ r.flatKeys := KeySet.mem_ofList
  rw [hmem, flatKeys_eq_map_declared, List.mem_map]

/-! ## Looking a field up -/

theorem mem_declared_of_field? (h : r.field? key = some l) : l ∈ r.declared ∧ l.flatKey = key := by
  obtain ⟨hkey, hentry, hfield⟩ := of_field?_eq_some h
  exact ⟨mem_declared.mpr ⟨hentry, hfield⟩, hkey.symm⟩

theorem field?_flatKey (hl : l ∈ r.declared) (hdot : '.' ∉ l.scope.toList) :
    r.field? l.flatKey = some l := by
  obtain ⟨hentry, hfield⟩ := mem_declared.mp hl
  have hsplit : splitKey? l.flatKey = some (l.scope, l.field.key) :=
    splitKey?_eq_some_iff.mpr ⟨rfl, hdot⟩
  have howner : r.section? l.scope = some l.owner := section?_of_mem hentry
  have hfound : l.owner.field? l.field.key = some l.field :=
    Section.field?_of_mem (r.uniqueKeys _ hentry) hfield
  simp only [field?, hsplit, howner, hfound, bind, Option.bind, pure]

/-- Where scopes hold no dots, a field is found under exactly the flat keys that
are listed.  It is the one registered under that key. -/
theorem field?_exact {r : Registry} (hdots : ∀ scope ∈ r.scopes, '.' ∉ scope.toList)
    (key : String) :
    ((∃ l, r.field? key = some l) ↔ key ∈ r.validKeys)
    ∧ ∀ l, r.field? key = some l →
      (l.scope, l.owner) ∈ r.entries
      ∧ l.field ∈ l.owner.allFields
      ∧ flatKey l.scope l.field.key = key
      ∧ ∀ e ∈ r.entries, ∀ f ∈ e.2.allFields, flatKey e.1 f.key = key →
        e = (l.scope, l.owner) ∧ f = l.field := by
  have hscope : ∀ l ∈ r.declared, '.' ∉ l.scope.toList := by
    intro l hl
    exact hdots l.scope (List.mem_map_of_mem (mem_declared.mp hl).1)
  refine ⟨?_, fun l hl => ?_⟩
  · rw [mem_validKeys]
    constructor
    · rintro ⟨l, hl⟩
      exact ⟨l, mem_declared_of_field? hl⟩
    · rintro ⟨l, hl, rfl⟩
      exact ⟨l, field?_flatKey hl (hscope l hl)⟩
  · obtain ⟨hdeclared, hkey⟩ := mem_declared_of_field? hl
    obtain ⟨hentry, hfield⟩ := mem_declared.mp hdeclared
    refine ⟨hentry, hfield, hkey, fun e he f hf hsame => ?_⟩
    have hmem : ⟨e.1, e.2, f⟩ ∈ r.declared := mem_declared.mpr ⟨he, hf⟩
    have hother := field?_flatKey hmem (hscope _ hmem)
    rw [FieldEntry.flatKey, hsame, hl] at hother
    obtain rfl := Option.some.inj hother
    exact ⟨rfl, rfl⟩

theorem field?_exact_dotted :
    let part : Section := ⟨"part", some "x.y", [⟨"b.c", .int, ""⟩], []⟩
    let first : Section := ⟨"first", some "a", [⟨"b", .string, ""⟩], [part]⟩
    let second : Section := ⟨"second", some "", [⟨"", .bool, ""⟩], []⟩
    ∃ r l, ofSections [first, second] = .ok r
      ∧ (∀ scope ∈ r.scopes, '.' ∉ scope.toList)
      ∧ r.field? "a.b.c" = some l
      ∧ "a.b.c" ∈ r.validKeys
      ∧ (l.scope, l.owner) ∈ r.entries
      ∧ l.field ∈ l.owner.allFields
      ∧ flatKey l.scope l.field.key = "a.b.c"
      ∧ ∀ e ∈ r.entries, ∀ f ∈ e.2.allFields, flatKey e.1 f.key = "a.b.c" →
        e = (l.scope, l.owner) ∧ f = l.field := by
  intro part first second
  obtain ⟨r, hr, hscopes, hfield⟩ : ∃ r, ofSections [first, second] = .ok r
      ∧ r.scopes = ["a", ""]
      ∧ r.field? "a.b.c" = some ⟨"a", first, ⟨"b.c", .int, ""⟩⟩ := ⟨_, rfl, rfl, rfl⟩
  have hdots : ∀ scope ∈ r.scopes, '.' ∉ scope.toList := by
    rw [hscopes]
    decide
  obtain ⟨hlisted, hfound⟩ := field?_exact hdots "a.b.c"
  exact ⟨r, _, hr, hdots, hfield, hlisted.mp ⟨_, hfield⟩, hfound _ hfield⟩

/-! ## Counting flat keys -/

theorem not_overlaps_self (l : FieldEntry) : ¬l.Overlaps l := by
  rintro ⟨text, hscope, -⟩
  have hchars : l.scope.toList = l.scope.toList ++ '.' :: text.toList := by
    rw [← toList_flatKey, ← hscope]
  simp at hchars

theorem nodup_flatKeys_iff :
    r.flatKeys.Nodup ↔ ∀ l ∈ r.declared, ∀ l' ∈ r.declared, ¬l.Overlaps l' := by
  rw [flatKeys_eq_map_declared, List.nodup_map_iff_inj_on r.nodup_declared]
  constructor
  · intro hinj l hl l' hl' hoverlaps
    obtain rfl := hinj l hl l' hl' ((flatKey_eq_iff_of_declared hl hl').mpr (.inr (.inl hoverlaps)))
    exact not_overlaps_self l hoverlaps
  · intro hnone l hl l' hl' hkey
    rcases (flatKey_eq_iff_of_declared hl hl').mp hkey with heq | hoverlaps | hoverlaps
    · exact heq
    · exact absurd hoverlaps (hnone l hl l' hl')
    · exact absurd hoverlaps (hnone l' hl' l hl)

theorem size_validKeys_iff :
    r.validKeys.size = (r.entries.map fun e => e.2.allFields.length).sum ↔ r.flatKeys.Nodup := by
  have hlength : r.flatKeys.length = (r.entries.map fun e => e.2.allFields.length).sum := by
    rw [← length_declared, flatKeys_eq_map_declared, List.length_map]
  rw [← hlength]
  exact KeySet.size_ofList_iff

/-- Two fields share a flat key exactly if the scope of one goes on where that of
the other ends, and there are as many flat keys as fields exactly if no two
fields are so placed. -/
theorem flatKeys_exact (r : Registry) :
    (∀ l ∈ r.declared, ∀ l' ∈ r.declared,
      l.flatKey = l'.flatKey ↔ l = l' ∨ l.Overlaps l' ∨ l'.Overlaps l)
    ∧ (r.validKeys.size = (r.entries.map fun e => e.2.allFields.length).sum ↔
      ∀ l ∈ r.declared, ∀ l' ∈ r.declared, ¬l.Overlaps l')
    ∧ ((∀ scope ∈ r.scopes, '.' ∉ scope.toList) →
      r.validKeys.size = (r.entries.map fun e => e.2.allFields.length).sum) := by
  have hsize := size_validKeys_iff.trans (nodup_flatKeys_iff (r := r))
  refine ⟨fun l hl l' hl' => flatKey_eq_iff_of_declared hl hl', hsize, fun hdots => ?_⟩
  refine hsize.mpr fun l hl l' hl' hoverlaps => ?_
  have hscope : l'.scope ∈ r.scopes := List.mem_map_of_mem (mem_declared.mp hl').1
  exact hdots l'.scope hscope (dot_mem_of_overlaps hoverlaps)

theorem flatKeys_exact_indexer :
    let l : FieldEntry := ⟨"base", .base, ⟨"throttling", .float,
      "seconds to pause between block requests"⟩⟩
    let l' : FieldEntry := ⟨"log", .log, ⟨"level", .string, "log level"⟩⟩
    (∀ scope ∈ indexer.scopes, '.' ∉ scope.toList)
      ∧ l ∈ indexer.declared ∧ l' ∈ indexer.declared
      ∧ (l.flatKey = l'.flatKey ↔ l = l' ∨ l.Overlaps l' ∨ l'.Overlaps l)
      ∧ (∀ l ∈ indexer.declared, ∀ l' ∈ indexer.declared, ¬l.Overlaps l')
      ∧ indexer.validKeys.size = 33 := by
  intro l l'
  have hdots : ∀ scope ∈ indexer.scopes, '.' ∉ scope.toList := by decide
  have hl : l ∈ indexer.declared := mem_declared.mpr ⟨by simp [indexer, l], by decide⟩
  have hl' : l' ∈ indexer.declared := mem_declared.mpr ⟨by simp [indexer, l'], by decide⟩
  obtain ⟨hshared, hcount, hsize⟩ := flatKeys_exact indexer
  exact ⟨hdots, hl, hl', hshared l hl l' hl', hcount.mp (hsize hdots), hsize hdots⟩

/-- Sections are registered although fields of theirs share a flat key. -/
theorem ofSections_overlapping :
    let first : Section := ⟨"first", some "a", [⟨"b.c", .string, ""⟩], []⟩
    let second : Section := ⟨"second", some "a.b", [⟨"c", .string, ""⟩], []⟩
    ∃ r, ofSections [first, second] = .ok r
      ∧ (∃ l ∈ r.declared, ∃ l' ∈ r.declared, l ≠ l' ∧ l.flatKey = l'.flatKey)
      ∧ r.validKeys.size = 1
      ∧ (r.entries.map fun e => e.2.allFields.length).sum = 2 := by
  intro first second
  refine ⟨_, rfl, ⟨⟨"a", first, ⟨"b.c", .string, ""⟩⟩, ?_, ⟨"a.b", second, ⟨"c", .string, ""⟩⟩, ?_,
    ?_, ?_⟩, rfl, rfl⟩
  · exact List.mem_cons_self
  · exact List.mem_cons_of_mem _ List.mem_cons_self
  · intro h
    exact absurd (FieldEntry.mk.inj h).1 (by decide)
  · decide

end Registry

end IndexerSettings
