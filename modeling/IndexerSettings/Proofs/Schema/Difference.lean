import Mathlib.Data.List.Dedup
import IndexerSettings.Proofs.Schema.Keys
import IndexerSettings.Proofs.Text.ByteOrder

/-!
# Keys that a set does not have

The keys reported are the supplied ones that are not in the set, in the order of
their bytes.  There is only one such list (`eq_missing_iff`), and the laws of the
report are read off it: neither the order of what is supplied nor its repetitions
count, what is supplied can be checked in pieces, a larger set leaves less to
report, and a report is its own report (`missing_exact`).
-/

namespace IndexerSettings.KeySet

variable {s t : KeySet} {keys keys' left right l : List String} {k : String}

/-- Ascending lists as one, with what is in both once. -/
def mergeKeys (left right : List String) : List String :=
  (left.merge right fun a b => decide (a ≤ b)).dedup

theorem mem_mergeKeys : k ∈ mergeKeys left right ↔ k ∈ left ∨ k ∈ right := by
  rw [mergeKeys, List.mem_dedup, List.mem_merge]

theorem pairwise_mergeKeys (hleft : left.Pairwise (· < ·)) (hright : right.Pairwise (· < ·)) :
    (mergeKeys left right).Pairwise (· < ·) := by
  have htrans : ∀ a b c : String, decide (a ≤ b) = true → decide (b ≤ c) = true →
      decide (a ≤ c) = true := by
    intro a b c hab hbc
    exact decide_eq_true (String.le_trans (of_decide_eq_true hab) (of_decide_eq_true hbc))
  have htotal : ∀ a b : String, (decide (a ≤ b) || decide (b ≤ a)) = true := by
    intro a b
    rw [Bool.or_eq_true, decide_eq_true_eq, decide_eq_true_eq]
    exact String.le_total a b
  have hle : ∀ {a b : String}, a < b → decide (a ≤ b) = true :=
    fun h => decide_eq_true (Std.le_of_lt h)
  have hmerged := List.pairwise_merge htrans htotal left right (hleft.imp hle) (hright.imp hle)
  have hascending := hmerged.sublist (List.dedup_sublist _)
  exact (hascending.and (List.nodup_dedup _)).imp fun h =>
    Std.lt_of_le_of_ne (of_decide_eq_true h.1) h.2

/-! ## What is reported -/

theorem eq_missing_iff :
    l = s.missing keys ↔ l.Pairwise (· < ·) ∧ ∀ k, k ∈ l ↔ k ∈ keys ∧ k ∉ s := by
  constructor
  · rintro rfl
    exact ⟨pairwise_missing s keys, fun k => mem_missing⟩
  · rintro ⟨hascending, hmem⟩
    refine List.Pairwise.eq_of_mem_iff hascending (pairwise_missing s keys) fun k => ?_
    rw [hmem, mem_missing]
    exact Iff.rfl

theorem missing_congr (h : ∀ k, k ∈ keys ↔ k ∈ keys') : s.missing keys = s.missing keys' := by
  rw [eq_missing_iff]
  refine ⟨pairwise_missing s keys, fun k => ?_⟩
  rw [mem_missing, h]
  exact Iff.rfl

theorem missing_eq_mergeKeys (h : ∀ k, k ∈ keys ↔ k ∈ left ∨ k ∈ right) :
    s.missing keys = mergeKeys (s.missing left) (s.missing right) := by
  symm
  rw [eq_missing_iff]
  refine ⟨pairwise_mergeKeys (pairwise_missing s left) (pairwise_missing s right), fun k => ?_⟩
  rw [mem_mergeKeys, mem_missing, mem_missing, h, or_and_right]
  exact Iff.rfl

theorem missing_sublist (h : ∀ k ∈ s, k ∈ t) : (t.missing keys).Sublist (s.missing keys) := by
  refine sublist_of_ascending (pairwise_missing t keys) (pairwise_missing s keys) fun k hk => ?_
  obtain ⟨hkeys, hnot⟩ := mem_missing.mp hk
  exact mem_missing.mpr ⟨hkeys, fun hmem => hnot (h k hmem)⟩

theorem missing_missing (s : KeySet) (keys : List String) :
    s.missing (s.missing keys) = s.missing keys := by
  symm
  rw [eq_missing_iff]
  refine ⟨pairwise_missing s keys, fun k => ?_⟩
  rw [mem_missing, and_assoc]
  exact ⟨fun h => ⟨h.1, h.2, h.2⟩, fun h => ⟨h.1, h.2.1⟩⟩

/-- The report is the supplied keys less those of the set, in the order of their
bytes and each once.  Order and repetition of what is supplied do not count, the
reports on two pieces of it merge into the report on all, a larger set leaves a
part of the report, and a report is reported as it is. -/
theorem missing_exact (s : KeySet) (keys : List String) :
    (s.missing keys).Pairwise (fun a b => Text.bytes a < Text.bytes b)
    ∧ (∀ k, k ∈ s.missing keys ↔ k ∈ keys ∧ k ∉ s)
    ∧ (∀ keys', (∀ k, k ∈ keys' ↔ k ∈ keys) → s.missing keys' = s.missing keys)
    ∧ (∀ left right, (∀ k, k ∈ keys ↔ k ∈ left ∨ k ∈ right) →
      s.missing keys = mergeKeys (s.missing left) (s.missing right))
    ∧ (∀ t : KeySet, (∀ k ∈ s, k ∈ t) → (t.missing keys).Sublist (s.missing keys))
    ∧ s.missing (s.missing keys) = s.missing keys := by
  refine ⟨?_, fun k => mem_missing, fun keys' h => missing_congr h,
    fun left right h => missing_eq_mergeKeys h, fun t h => missing_sublist h,
    missing_missing s keys⟩
  exact (pairwise_missing s keys).imp Text.bytes_lt_iff.mpr

theorem missing_exact_accent :
    let s := ofList ["base.api"]
    let t := ofList ["base.api", "log.é"]
    let keys := ["log.é", "zeta", "base.api", "log.é", "log.z"]
    (∀ k, k ∈ ["zeta", "log.z", "log.é", "base.api"] ↔ k ∈ keys)
      ∧ s.missing ["zeta", "log.z", "log.é", "base.api"] = s.missing keys
      ∧ (∀ k, k ∈ keys ↔ k ∈ ["log.é", "zeta", "base.api"] ∨ k ∈ ["log.é", "log.z"])
      ∧ s.missing keys
        = mergeKeys (s.missing ["log.é", "zeta", "base.api"]) (s.missing ["log.é", "log.z"])
      ∧ (∀ k ∈ s, k ∈ t)
      ∧ (t.missing keys).Sublist (s.missing keys)
      ∧ s.missing keys = ["log.z", "log.é", "zeta"] := by
  intro s t keys
  have hsame : ∀ k, k ∈ ["zeta", "log.z", "log.é", "base.api"] ↔ k ∈ keys := by
    intro k
    simp only [keys, List.mem_cons, List.not_mem_nil, or_false]
    tauto
  have hsplit : ∀ k, k ∈ keys ↔ k ∈ ["log.é", "zeta", "base.api"] ∨ k ∈ ["log.é", "log.z"] := by
    intro k
    simp only [keys, List.mem_cons, List.not_mem_nil, or_false]
    tauto
  have hlarger : ∀ k ∈ s, k ∈ t := by
    intro k hk
    obtain rfl := List.mem_singleton.mp (mem_ofList.mp hk)
    exact mem_ofList.mpr List.mem_cons_self
  obtain ⟨-, -, hcongr, hmerge, hsublist, -⟩ := missing_exact s keys
  exact ⟨hsame, hcongr _ hsame, hsplit, hmerge _ _ hsplit, hlarger, hsublist t hlarger, rfl⟩

end IndexerSettings.KeySet
