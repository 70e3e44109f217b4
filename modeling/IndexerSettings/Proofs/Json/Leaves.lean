import IndexerSettings.Proofs.Json.Lookup

/-!
# Leaves

A document seen from its leaves: every leaf with its value and the names on
the way to it, and the document that is left when some of them are taken out.
Objects stay where they are when they lose their members, so a leaf taken out
disturbs no other (`Document.leaves_without`), and a fold over the members
notices nothing if it skips what is gone (`foldlM_membersWithout`).

Each leaf has its way, the ways to leaves ascend where names do, and so there is no
way to two of them (`Document.mem_leafPaths_iff`, `Document.pairwise_leafPaths`).
-/

namespace IndexerSettings

namespace Json

/-! ## Leaves and their values -/

mutual

/-- The leaves of a value, each behind the names on the way to it. -/
def leaves : Json → List (List String × Json)
  | scalar s => [([], scalar s)]
  | array items => [([], array items)]
  | object members => leavesOf members
termination_by structural j => j

def leavesOf : List Member → List (List String × Json)
  | [] => []
  | (k, j) :: rest =>
    (leaves j).map (fun leaf => (k :: leaf.1, leaf.2)) ++ leavesOf rest
termination_by structural members => members

end

/-- A value that is no object. -/
def IsLeaf (j : Json) : Prop := ∀ members, j ≠ object members

theorem isLeaf_or_object (j : Json) : j.IsLeaf ∨ ∃ members, j = object members := by
  cases j with
  | scalar s => exact .inl fun _ h => by cases h
  | array items => exact .inl fun _ h => by cases h
  | object members => exact .inr ⟨members, rfl⟩

theorem leaves_of_isLeaf {j : Json} (h : j.IsLeaf) : leaves j = [([], j)] := by
  cases j with
  | scalar s => rfl
  | array items => rfl
  | object members => exact absurd rfl (h members)

theorem mem_leavesOf_iff {members : List Member} {path : List String} {j : Json} :
    (path, j) ∈ leavesOf members ↔
      ∃ m ∈ members, ∃ below, (below, j) ∈ leaves m.2 ∧ path = m.1 :: below := by
  induction members with
  | nil => simp [leavesOf]
  | cons m rest ih =>
      obtain ⟨k, v⟩ := m
      rw [leavesOf, List.mem_append, List.mem_map, ih]
      constructor
      · rintro (⟨leaf, hleaf, heq⟩ | ⟨m, hm, below, hbelow, rfl⟩)
        · obtain ⟨rfl, rfl⟩ := Prod.mk.inj heq
          exact ⟨(k, v), List.mem_cons_self, leaf.1, hleaf, rfl⟩
        · exact ⟨m, List.mem_cons_of_mem _ hm, below, hbelow, rfl⟩
      · rintro ⟨m, hm, below, hbelow, rfl⟩
        rcases List.mem_cons.mp hm with rfl | hm
        · exact .inl ⟨(below, j), hbelow, rfl⟩
        · exact .inr ⟨m, hm, below, hbelow, rfl⟩

/-- A leaf without a way to it is the whole value. -/
theorem mem_leaves_nil_iff {v j : Json} : ([], j) ∈ leaves v ↔ v.IsLeaf ∧ j = v := by
  rcases isLeaf_or_object v with hv | ⟨members, rfl⟩
  · rw [leaves_of_isLeaf hv, List.mem_singleton, Prod.mk.injEq]
    exact and_congr_left' (by simp [hv])
  · constructor
    · intro h
      obtain ⟨m, -, below, -, hpath⟩ := mem_leavesOf_iff.mp h
      cases hpath
    · rintro ⟨h, -⟩
      exact absurd rfl (h members)

theorem mem_leaves_cons_iff {v j : Json} {name : String} {path : List String} :
    (name :: path, j) ∈ leaves v ↔
      ∃ members, v = object members ∧ ∃ m ∈ members, m.1 = name ∧ (path, j) ∈ leaves m.2 := by
  rcases isLeaf_or_object v with hv | ⟨members, rfl⟩
  · rw [leaves_of_isLeaf hv, List.mem_singleton, Prod.mk.injEq]
    constructor
    · rintro ⟨hpath, -⟩
      cases hpath
    · rintro ⟨members, rfl, -⟩
      exact absurd rfl (hv members)
  · have hleaves : leaves (object members) = leavesOf members := rfl
    rw [hleaves, mem_leavesOf_iff]
    constructor
    · rintro ⟨m, hm, below, hbelow, hpath⟩
      obtain ⟨rfl, rfl⟩ := List.cons.inj hpath
      exact ⟨members, rfl, m, hm, rfl, hbelow⟩
    · rintro ⟨_, heq, m, hm, rfl, hpath⟩
      obtain rfl := Json.object.inj heq
      exact ⟨m, hm, path, hpath, rfl⟩

mutual

theorem map_fst_leaves : ∀ j : Json, (leaves j).map Prod.fst = leafPaths j
  | scalar _ => rfl
  | array _ => rfl
  | object members => map_fst_leavesOf members

theorem map_fst_leavesOf :
    ∀ members : List Member, (leavesOf members).map Prod.fst = leafPathsOf members
  | [] => rfl
  | (k, j) :: rest => by
      rw [leavesOf, leafPathsOf, List.map_append, map_fst_leavesOf rest, ← map_fst_leaves j,
        List.map_map, List.map_map]
      rfl

end

/-! ## Ways to leaves -/

/-- A value is found in another one behind some names, each of a member of the
object before it. -/
inductive Reaches : Json → List String → Json → Prop
  | here (j : Json) : Reaches j [] j
  | inside {members : List Member} {m : Member} {path : List String} {j : Json}
      (hm : m ∈ members) (h : Reaches m.2 path j) : Reaches (object members) (m.1 :: path) j

/-- The names on the way to a leaf, for each leaf and for nothing else. -/
theorem mem_leafPaths_iff {v : Json} {path : List String} :
    path ∈ leafPaths v ↔ ∃ j, v.Reaches path j ∧ j.IsLeaf := by
  induction path generalizing v with
  | nil =>
      rcases isLeaf_or_object v with hv | ⟨members, rfl⟩
      · rw [← map_fst_leaves, leaves_of_isLeaf hv]
        simpa using ⟨v, .here v, hv⟩
      · refine iff_of_false (nil_notMem_leafPathsOf members) ?_
        rintro ⟨j, h, hj⟩
        cases h
        exact hj members rfl
  | cons name path ih =>
      constructor
      · intro h
        obtain ⟨members, rfl, h⟩ := exists_object_of_cons_mem h
        obtain ⟨m, hm, rest, hrest, heq⟩ := mem_leafPathsOf_iff.mp h
        obtain ⟨rfl, rfl⟩ := List.cons.inj heq
        obtain ⟨j, hreaches, hj⟩ := ih.mp hrest
        exact ⟨j, .inside hm hreaches, hj⟩
      · rintro ⟨j, h, hj⟩
        cases h with
        | inside hm h => exact mem_leafPathsOf_iff.mpr ⟨_, hm, path, ih.mpr ⟨j, h, hj⟩, rfl⟩

mutual

/-- The ways to leaves ascend, compared name by name, if the names in each object
do. -/
theorem pairwise_leafPaths : ∀ {j : Json}, Ordered j → (leafPaths j).Pairwise (· < ·)
  | scalar _, _ => List.pairwise_singleton ..
  | array _, _ => List.pairwise_singleton ..
  | object _, h => pairwise_leafPathsOf h.1 h.2

theorem pairwise_leafPathsOf :
    ∀ {members : List Member}, Ascending members → OrderedMembers members →
      (leafPathsOf members).Pairwise (· < ·)
  | [], _, _ => .nil
  | (k, j) :: rest, hascending, hordered => by
      obtain ⟨hnew, hrest⟩ := List.pairwise_cons.mp hascending
      have hj : ((leafPaths j).map (k :: ·)).Pairwise (· < ·) :=
        (pairwise_leafPaths hordered.1).map _ fun path path' hlt =>
          List.cons_lt_cons_iff.mpr (.inr ⟨rfl, hlt⟩)
      rw [leafPathsOf, List.pairwise_append]
      refine ⟨hj, pairwise_leafPathsOf hrest hordered.2, fun path hpath path' hpath' => ?_⟩
      obtain ⟨below, -, rfl⟩ := List.mem_map.mp hpath
      obtain ⟨m, hm, below', -, rfl⟩ := mem_leafPathsOf_iff.mp hpath'
      exact List.cons_lt_cons_iff.mpr (.inl (hnew m.1 (List.mem_map_of_mem hm)))

end

/-! ## Leaves taken out -/

mutual

/-- A value without the leaves whose paths are `gone`; nothing is left of a
leaf that is gone itself. -/
def without (gone : List String → Bool) : Json → Option Json
  | scalar s => if gone [] then none else some (scalar s)
  | array items => if gone [] then none else some (array items)
  | object members => some (object (membersWithout gone members))
termination_by structural j => j

def membersWithout (gone : List String → Bool) : List Member → List Member
  | [] => []
  | (k, j) :: rest =>
    match without (fun path => gone (k :: path)) j with
    | some left => (k, left) :: membersWithout gone rest
    | none => membersWithout gone rest
termination_by structural members => members

end

theorem without_of_isLeaf {gone : List String → Bool} {j : Json} (h : j.IsLeaf) :
    without gone j = if gone [] then none else some j := by
  cases j with
  | scalar s => rfl
  | array items => rfl
  | object members => exact absurd rfl (h members)

mutual

theorem leaves_without (gone : List String → Bool) :
    ∀ j : Json, (without gone j).elim [] leaves = (leaves j).filter fun leaf => !gone leaf.1
  | scalar s => by
      rw [without, leaves]
      cases h : gone [] <;> simp [h, leaves]
  | array items => by
      rw [without, leaves]
      cases h : gone [] <;> simp [h, leaves]
  | object members => leavesOf_membersWithout gone members

theorem leavesOf_membersWithout (gone : List String → Bool) :
    ∀ members : List Member,
      leavesOf (membersWithout gone members)
        = (leavesOf members).filter fun leaf => !gone leaf.1
  | [] => rfl
  | (k, j) :: rest => by
      have hj := leaves_without (fun path => gone (k :: path)) j
      have hrest := leavesOf_membersWithout gone rest
      have hmap : ((leaves j).map fun leaf => (k :: leaf.1, leaf.2)).filter
            (fun leaf => !gone leaf.1)
          = ((leaves j).filter fun leaf => !gone (k :: leaf.1)).map
              fun leaf => (k :: leaf.1, leaf.2) := List.filter_map
      rw [leavesOf, List.filter_append, hmap, ← hj, ← hrest, membersWithout]
      cases without (fun path => gone (k :: path)) j <;> rfl

end

theorem map_fst_membersWithout_sublist (gone : List String → Bool) (members : List Member) :
    ((membersWithout gone members).map Prod.fst).Sublist (members.map Prod.fst) := by
  induction members with
  | nil => exact .slnil
  | cons m rest ih =>
      obtain ⟨k, j⟩ := m
      rw [membersWithout]
      split
      · exact ih.cons_cons k
      · exact ih.cons k

mutual

theorem ordered_without {gone : List String → Bool} :
    ∀ {j left : Json}, Ordered j → without gone j = some left → Ordered left
  | scalar s, left, h, hleft => by
      rw [without] at hleft
      split at hleft
      · cases hleft
      · exact Option.some.inj hleft ▸ h
  | array items, left, h, hleft => by
      rw [without] at hleft
      split at hleft
      · cases hleft
      · exact Option.some.inj hleft ▸ h
  | object members, left, h, hleft => by
      obtain rfl := Option.some.inj hleft
      exact ⟨h.1.sublist (map_fst_membersWithout_sublist gone members),
        orderedMembers_membersWithout h.2⟩

theorem orderedMembers_membersWithout {gone : List String → Bool} :
    ∀ {members : List Member}, OrderedMembers members →
      OrderedMembers (membersWithout gone members)
  | [], _ => trivial
  | (k, j) :: rest, h => by
      rw [membersWithout]
      split
      · rename_i left hleft
        exact ⟨ordered_without h.1 hleft, orderedMembers_membersWithout h.2⟩
      · exact orderedMembers_membersWithout h.2

end

/-- A fold over members does not miss what is gone if it skips that, and takes
an object for the same whatever its members are. -/
theorem foldlM_membersWithout {ε σ : Type} {f : σ → Member → Except ε σ}
    {gone : List String → Bool} {members : List Member}
    (hgone : ∀ m ∈ members, m.2.IsLeaf → gone [m.1] = true → ∀ s, f s m = .ok s)
    (hkept : ∀ m ∈ members, ∀ below, m.2 = object below → ∀ s,
      f s (m.1, object (membersWithout (fun path => gone (m.1 :: path)) below)) = f s m)
    (s : σ) :
    (membersWithout gone members).foldlM f s = members.foldlM f s := by
  induction members generalizing s with
  | nil => rfl
  | cons m rest ih =>
      obtain ⟨hgone, hgoneRest⟩ := List.forall_mem_cons.mp hgone
      obtain ⟨hkept, hkeptRest⟩ := List.forall_mem_cons.mp hkept
      have ih := ih hgoneRest hkeptRest
      obtain ⟨k, j⟩ := m
      rw [membersWithout, List.foldlM_cons]
      rcases isLeaf_or_object j with hj | ⟨below, rfl⟩
      · rw [without_of_isLeaf hj]
        cases hk : gone [k] with
        | true =>
            rw [hgone hj hk]
            exact ih s
        | false =>
            show ((k, j) :: membersWithout gone rest).foldlM f s = _
            rw [List.foldlM_cons]
            simp only [ih]
      · rw [without, List.foldlM_cons, hkept below rfl]
        simp only [ih]

end Json

namespace Document

open Json

/-- The leaves of a document, each behind the names on the way to it. -/
def leaves (d : Document) : List (List String × Json) := leavesOf d.members

/-- A document without the leaves whose paths are `gone`. -/
def without (d : Document) (gone : List String → Bool) : Document :=
  ⟨membersWithout gone d.members, ordered_without d.ordered rfl⟩

theorem map_fst_leaves (d : Document) : d.leaves.map Prod.fst = d.leafPaths :=
  map_fst_leavesOf d.members

theorem mem_leafPaths_iff (d : Document) {path : List String} :
    path ∈ d.leafPaths ↔ ∃ j, d.toJson.Reaches path j ∧ j.IsLeaf :=
  Json.mem_leafPaths_iff (v := d.toJson)

/-- The leaves of a document come in depth-first order, that of the names on the
way to them. -/
theorem pairwise_leafPaths (d : Document) : d.leafPaths.Pairwise (· < ·) :=
  pairwise_leafPathsOf d.ordered.1 d.ordered.2

theorem nodup_leafPaths (d : Document) : d.leafPaths.Nodup := by
  refine d.pairwise_leafPaths.imp ?_
  rintro path _ hlt rfl
  exact List.lt_irrefl path hlt

/-- The other leaves stay as they are. -/
theorem leaves_without (d : Document) (gone : List String → Bool) :
    (d.without gone).leaves = d.leaves.filter fun leaf => !gone leaf.1 :=
  leavesOf_membersWithout gone d.members

end Document

end IndexerSettings
