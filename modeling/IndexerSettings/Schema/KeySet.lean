/-!
# Sets of keys

Keys in ascending order, each once.  The order is that of their code points,
which is also the order of their bytes.
-/

namespace IndexerSettings

/-- A set of keys, as the ascending list of its elements. -/
structure KeySet where
  toList : List String
  ascending : toList.Pairwise (· < ·)

namespace KeySet

/-- An ascending list with one more key in its place. -/
def insertKey (key : String) : List String → List String
  | [] => [key]
  | k :: rest =>
    if key < k then key :: k :: rest
    else if key = k then k :: rest
    else k :: insertKey key rest

@[simp] theorem mem_insertKey {key k : String} {keys : List String} :
    k ∈ insertKey key keys ↔ k = key ∨ k ∈ keys := by
  induction keys with
  | nil => simp [insertKey]
  | cons head rest ih =>
    rw [insertKey]
    split
    · exact List.mem_cons
    · split
      · rename_i heq
        subst heq
        simp
      · simp only [List.mem_cons, ih]
        exact or_left_comm

theorem pairwise_insertKey {key : String} {keys : List String}
    (h : keys.Pairwise (· < ·)) : (insertKey key keys).Pairwise (· < ·) := by
  induction keys with
  | nil => exact List.pairwise_singleton ..
  | cons head rest ih =>
    obtain ⟨hhead, hrest⟩ := List.pairwise_cons.mp h
    rw [insertKey]
    split
    · rename_i hlt
      refine List.pairwise_cons.mpr ⟨fun k hk => ?_, h⟩
      rcases List.mem_cons.mp hk with rfl | hk
      · exact hlt
      · exact String.lt_trans hlt (hhead k hk)
    · split
      · exact h
      · rename_i hlt hne
        refine List.pairwise_cons.mpr ⟨fun k hk => ?_, ih hrest⟩
        rcases mem_insertKey.mp hk with rfl | hk
        · exact Std.lt_of_le_of_ne hlt (Ne.symm hne)
        · exact hhead k hk

def empty : KeySet := ⟨[], .nil⟩

def insert (s : KeySet) (key : String) : KeySet :=
  ⟨insertKey key s.toList, pairwise_insertKey s.ascending⟩

/-- The set of the elements of a list. -/
def ofList (keys : List String) : KeySet := keys.foldl insert empty

instance : Membership String KeySet := ⟨fun s key => key ∈ s.toList⟩

instance (key : String) (s : KeySet) : Decidable (key ∈ s) :=
  inferInstanceAs (Decidable (key ∈ s.toList))

def size (s : KeySet) : Nat := s.toList.length

/-- The keys of a list that are not in the set, ascending, each once. -/
def missing (s : KeySet) (keys : List String) : List String :=
  (ofList (keys.filter fun k => k ∉ s)).toList

end KeySet

end IndexerSettings
