import Mathlib.Data.List.Basic
import IndexerSettings.Schema.Indexer

/-!
# Names joined by dots

Which lists of names, joined by dots, give a flat key.  Joining loses where one
name ends and the next begins, so a key of a scope and a field is given by two
lists: the two names, and the key as one name (`intercalate_eq_flatKey_iff`).
Names that hold dots themselves allow for more, but the indexer has none.
-/

namespace IndexerSettings

theorem toList_flatKey (scope key : String) :
    (flatKey scope key).toList = scope.toList ++ '.' :: key.toList := by
  simp [flatKey]

theorem intercalate_pair (scope key : String) :
    ".".intercalate [scope, key] = flatKey scope key := rfl

theorem dot_mem_intercalate {name next : String} {rest : List String} :
    '.' ∈ (".".intercalate (name :: next :: rest)).toList := by
  simp

theorem intercalate_eq_flatKey_iff {scope key : String} (hscope : '.' ∉ scope.toList)
    (hkey : '.' ∉ key.toList) {path : List String} :
    ".".intercalate path = flatKey scope key ↔
      path = [scope, key] ∨ path = [flatKey scope key] := by
  constructor
  · intro h
    match path with
    | [] =>
        have hnil := congrArg String.toList h
        rw [toList_flatKey] at hnil
        simp at hnil
    | [name] => exact .inr (by rw [← h, String.intercalate_singleton])
    | name :: next :: rest =>
        have hchars := congrArg String.toList h.symm
        rw [toList_flatKey, String.intercalate_cons_cons, String.toList_append,
          String.toList_append, List.append_assoc] at hchars
        obtain ⟨hname, -, hrest⟩ :=
          (List.append_cons_inj_of_notMem hscope hkey).mp hchars
        have hnil : rest = [] := by
          cases rest with
          | nil => rfl
          | cons third rest => exact absurd (hrest ▸ dot_mem_intercalate) hkey
        subst hnil
        rw [String.intercalate_singleton] at hrest
        rw [String.toList_inj.mp hname, String.toList_inj.mp hrest]
        exact .inl rfl
  · rintro (rfl | rfl)
    · rfl
    · exact String.intercalate_singleton

/-- Joining loses nothing where no name holds a dot: the names are what the text
falls into at its dots. -/
theorem intercalate_inj {path path' : List String} (hpath : path ≠ []) (hpath' : path' ≠ [])
    (hdots : ∀ name ∈ path, '.' ∉ name.toList) (hdots' : ∀ name ∈ path', '.' ∉ name.toList)
    (h : ".".intercalate path = ".".intercalate path') : path = path' := by
  have hsplit : ∀ path : List String, path ≠ [] → (∀ name ∈ path, '.' ∉ name.toList) →
      (".".intercalate path).toList.splitOn '.' = path.map String.toList := by
    intro path hne hdots
    rw [String.toList_intercalate]
    exact List.splitOn_intercalate '.' (List.forall_mem_map.mpr hdots) (by simpa using hne)
  have hnames := hsplit path hpath hdots
  rw [h, hsplit path' hpath' hdots'] at hnames
  exact List.map_injective_iff.mpr (fun _ _ => String.toList_inj.mp) hnames.symm

/-- No name that the indexer registers holds a dot. -/
theorem Registry.dot_notMem_indexer :
    ∀ e ∈ indexer.entries, '.' ∉ e.1.toList ∧ ∀ f ∈ e.2.allFields, '.' ∉ f.key.toList := by
  decide

end IndexerSettings
