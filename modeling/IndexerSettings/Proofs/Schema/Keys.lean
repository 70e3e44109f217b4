import Mathlib.Data.List.Sort
import IndexerSettings.Schema.Registry

/-!
# Keys that are known and keys that are not

The set of a list has the elements of the list, so the keys reported as
unknown are the supplied ones that no section has.
-/

namespace IndexerSettings

namespace KeySet

theorem mem_foldl_insert {keys : List String} {s : KeySet} {k : String} :
    k ∈ (keys.foldl insert s).toList ↔ k ∈ s.toList ∨ k ∈ keys := by
  induction keys generalizing s with
  | nil => simp
  | cons key rest ih =>
      have hinsert : k ∈ (s.insert key).toList ↔ k = key ∨ k ∈ s.toList := mem_insertKey
      rw [List.foldl_cons, ih, hinsert, List.mem_cons, or_assoc, or_left_comm]

theorem mem_ofList {keys : List String} {k : String} :
    k ∈ (ofList keys).toList ↔ k ∈ keys := by
  rw [ofList, mem_foldl_insert]
  exact or_iff_right List.not_mem_nil

/-- Sets with the same elements are the same, for their lists are in order. -/
theorem ext_mem {s t : KeySet} (h : ∀ k, k ∈ s.toList ↔ k ∈ t.toList) : s = t := by
  obtain ⟨keys, hkeys⟩ := s
  obtain ⟨keys', hkeys'⟩ := t
  obtain rfl : keys = keys' := List.Pairwise.eq_of_mem_iff hkeys hkeys' h
  rfl

theorem mem_missing {s : KeySet} {keys : List String} {k : String} :
    k ∈ s.missing keys ↔ k ∈ keys ∧ k ∉ s.toList := by
  rw [missing, mem_ofList, List.mem_filter, decide_eq_true_eq]
  exact Iff.rfl

theorem pairwise_missing (s : KeySet) (keys : List String) : (s.missing keys).Pairwise (· < ·) :=
  (ofList _).ascending

/-- Of two ascending lists one is a sublist of the other if its elements are
among those of the other. -/
theorem sublist_of_ascending {keys keys' : List String} (hkeys : keys.Pairwise (· < ·))
    (hkeys' : keys'.Pairwise (· < ·)) (h : ∀ k ∈ keys, k ∈ keys') : keys.Sublist keys' := by
  have hnd : keys.Nodup := hkeys.imp Std.ne_of_lt
  exact List.sublist_of_subperm_of_pairwise (List.subperm_of_subset hnd h) hkeys hkeys'

end KeySet

namespace Registry

theorem mem_flatKeys {r : Registry} {k : String} :
    k ∈ r.flatKeys ↔ ∃ e ∈ r.entries, ∃ key ∈ e.2.keys, flatKey e.1 key = k := by
  rw [flatKeys, List.mem_flatMap]
  simp only [Section.keysUnder, List.mem_map]

theorem mem_unknownKeys {r : Registry} {supplied : List String} {k : String} :
    k ∈ r.unknownKeys supplied ↔ k ∈ supplied ∧ k ∉ r.flatKeys := by
  rw [unknownKeys, KeySet.mem_missing, validKeys, KeySet.mem_ofList]

/-- Reported keys are in order, so that those which are also reported elsewhere
are a sublist of what is reported there. -/
theorem unknownKeys_sublist {r : Registry} {supplied supplied' : List String}
    (h : ∀ k ∈ r.unknownKeys supplied, k ∈ r.unknownKeys supplied') :
    (r.unknownKeys supplied).Sublist (r.unknownKeys supplied') :=
  KeySet.sublist_of_ascending (KeySet.pairwise_missing ..) (KeySet.pairwise_missing ..) h

/-- No key is reported if every supplied one is that of a field. -/
theorem unknownKeys_eq_nil {r : Registry} {supplied : List String}
    (h : ∀ k ∈ supplied, k ∈ r.flatKeys) : r.unknownKeys supplied = [] := by
  refine List.eq_nil_iff_forall_not_mem.mpr fun k hk => ?_
  obtain ⟨hsupplied, hunknown⟩ := mem_unknownKeys.mp hk
  exact hunknown (h k hsupplied)

end Registry

end IndexerSettings
