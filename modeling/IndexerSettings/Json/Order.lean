import IndexerSettings.Json.Basic

/-!
# Objects in order of their names

An object read as a mapping from names to values: the members ascending by
name, each name once.  `insert` keeps an object so, `sorted` brings a whole
value into this form, and of members with the same name the last one counts.
Names are compared by code point, which is also the order of their bytes.
-/

namespace IndexerSettings.Json

/-! ## One object -/

/-- Strictly ascending names. -/
def Ascending (members : List Member) : Prop :=
  (members.map Prod.fst).Pairwise (· < ·)

instance (members : List Member) : Decidable (Ascending members) :=
  inferInstanceAs (Decidable (List.Pairwise _ _))

/-- Gives a name its value, in place of the one it had or where its place is
among ascending names. -/
def insert (name : String) (value : Json) : List Member → List Member
  | [] => [(name, value)]
  | (k, v) :: rest =>
    if name < k then (name, value) :: (k, v) :: rest
    else if name = k then (name, value) :: rest
    else (k, v) :: insert name value rest

theorem mem_insert {name : String} {value : Json} {members : List Member}
    {m : Member} (h : m ∈ insert name value members) :
    m = (name, value) ∨ m ∈ members := by
  induction members with
  | nil => exact .inl (List.mem_singleton.mp h)
  | cons head rest ih =>
    obtain ⟨k, v⟩ := head
    rw [insert] at h
    split at h
    · exact List.mem_cons.mp h
    · split at h
      · exact (List.mem_cons.mp h).imp_right (List.mem_cons_of_mem _)
      · rcases List.mem_cons.mp h with rfl | h
        · exact .inr List.mem_cons_self
        · exact (ih h).imp_right (List.mem_cons_of_mem _)

theorem ascending_insert {name : String} {value : Json} {members : List Member}
    (h : Ascending members) : Ascending (insert name value members) := by
  induction members with
  | nil => exact List.pairwise_singleton ..
  | cons head rest ih =>
    obtain ⟨k, v⟩ := head
    obtain ⟨hk, hrest⟩ := List.pairwise_cons.mp h
    rw [insert]
    split
    · rename_i hlt
      refine List.pairwise_cons.mpr ⟨fun n hn => ?_, h⟩
      rcases List.mem_cons.mp hn with rfl | hn
      · exact hlt
      · exact String.lt_trans hlt (hk n hn)
    · split
      · rename_i heq
        subst heq
        exact List.pairwise_cons.mpr ⟨hk, hrest⟩
      · rename_i hlt hne
        refine List.pairwise_cons.mpr ⟨fun n hn => ?_, ih hrest⟩
        obtain ⟨m, hm, rfl⟩ := List.mem_map.mp hn
        rcases mem_insert hm with rfl | hm
        · exact Std.lt_of_le_of_ne hlt (Ne.symm hne)
        · exact hk _ (List.mem_map_of_mem hm)

@[simp] theorem lookup_insert_self (name : String) (value : Json)
    (members : List Member) :
    (insert name value members).lookup name = some value := by
  induction members with
  | nil => simp [insert]
  | cons head rest ih =>
    obtain ⟨k, v⟩ := head
    rw [insert]
    split
    · simp
    · split
      · simp
      · rename_i hne
        rw [List.lookup_cons, beq_eq_false_iff_ne.mpr hne]
        exact ih

theorem lookup_insert_of_ne {name other : String} (hne : other ≠ name)
    (value : Json) (members : List Member) :
    (insert name value members).lookup other = members.lookup other := by
  have hb : (other == name) = false := beq_eq_false_iff_ne.mpr hne
  induction members with
  | nil => simp [insert, List.lookup_cons, hb]
  | cons head rest ih =>
    obtain ⟨k, v⟩ := head
    rw [insert]
    split
    · simp [List.lookup_cons, hb]
    · split
      · rename_i heq
        subst heq
        simp [List.lookup_cons, hb]
      · simp only [List.lookup_cons]
        split
        · rfl
        · exact ih

/-! ## A whole value -/

mutual

/-- Ascending members in every object of a value. -/
def Ordered : Json → Prop
  | scalar _ => True
  | array items => OrderedItems items
  | object members => Ascending members ∧ OrderedMembers members
termination_by structural j => j

def OrderedItems : List Json → Prop
  | [] => True
  | j :: rest => Ordered j ∧ OrderedItems rest
termination_by structural items => items

def OrderedMembers : List Member → Prop
  | [] => True
  | (_, j) :: rest => Ordered j ∧ OrderedMembers rest
termination_by structural members => members

end

mutual

/-- A value with the members of all its objects in order. -/
def sorted : Json → Json
  | scalar s => scalar s
  | array items => array (sortedItems items)
  | object members => object (sortedMembers [] members)
termination_by structural j => j

def sortedItems : List Json → List Json
  | [] => []
  | j :: rest => sorted j :: sortedItems rest
termination_by structural items => items

/-- Enters members, one after the other, into an object in order. -/
def sortedMembers (into : List Member) : List Member → List Member
  | [] => into
  | (k, j) :: rest => sortedMembers (insert k (sorted j) into) rest
termination_by structural members => members

end

theorem orderedMembers_iff {members : List Member} :
    OrderedMembers members ↔ ∀ m ∈ members, Ordered m.2 := by
  induction members with
  | nil => simp [OrderedMembers]
  | cons head rest ih => simp [OrderedMembers, ih]

theorem ordered_of_lookup {name : String} {value : Json}
    {members : List Member} (h : OrderedMembers members)
    (hl : members.lookup name = some value) : Ordered value := by
  induction members with
  | nil => simp at hl
  | cons head rest ih =>
    obtain ⟨k, v⟩ := head
    rw [List.lookup_cons] at hl
    split at hl
    · obtain rfl := Option.some.inj hl
      exact h.1
    · exact ih h.2 hl

theorem orderedMembers_insert {name : String} {value : Json}
    {members : List Member} (hv : Ordered value) (h : OrderedMembers members) :
    OrderedMembers (insert name value members) := by
  rw [orderedMembers_iff] at *
  intro m hm
  rcases mem_insert hm with rfl | hm
  · exact hv
  · exact h m hm

theorem ordered_object_insert {name : String} {value : Json}
    {members : List Member} (hv : Ordered value) (h : Ordered (object members)) :
    Ordered (object (insert name value members)) := by
  obtain ⟨ha, hm⟩ := h
  exact ⟨ascending_insert ha, orderedMembers_insert hv hm⟩

mutual

theorem ordered_sorted : ∀ j : Json, Ordered (sorted j)
  | scalar _ => trivial
  | array items => orderedItems_sortedItems items
  | object members => ordered_sortedMembers [] members ⟨.nil, trivial⟩

theorem orderedItems_sortedItems :
    ∀ items : List Json, OrderedItems (sortedItems items)
  | [] => trivial
  | j :: rest => ⟨ordered_sorted j, orderedItems_sortedItems rest⟩

theorem ordered_sortedMembers (into : List Member) :
    ∀ members : List Member, Ordered (object into) →
      Ordered (object (sortedMembers into members))
  | [], h => h
  | (k, j) :: rest, h =>
    ordered_sortedMembers (insert k (sorted j) into) rest
      (ordered_object_insert (ordered_sorted j) h)

end

end IndexerSettings.Json
