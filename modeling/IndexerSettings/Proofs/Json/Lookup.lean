import Mathlib.Data.List.Sort
import IndexerSettings.Json.Document

/-!
# Looking up members

The value under a name, in lists of members as they are built: one member at a
time, by mapping values, and by putting an object in order.  The leaves of an
object are those of its members.
-/

namespace IndexerSettings.Json

/-! ## Lists of names with values -/

section List

variable {α β : Type}

theorem lookup_cons_self (m : String × α) (rest : List (String × α)) :
    (m :: rest).lookup m.1 = some m.2 := by
  obtain ⟨k, v⟩ := m
  simp

theorem lookup_cons_of_ne {m : String × α} {key : String} (hne : key ≠ m.1)
    (rest : List (String × α)) : (m :: rest).lookup key = rest.lookup key := by
  obtain ⟨k, v⟩ := m
  rw [List.lookup_cons, beq_eq_false_iff_ne.mpr hne]

theorem lookup_eq_none_of_not_mem {key : String} {l : List (String × α)}
    (h : key ∉ l.map Prod.fst) : l.lookup key = none := by
  rw [List.lookup_eq_none_iff]
  intro m hm
  have hne : key ≠ m.1 := fun heq => h (heq ▸ List.mem_map_of_mem hm)
  exact bne_iff_ne.mpr hne

theorem lookup_eq_some_of_mem {m : String × α} {l : List (String × α)}
    (hnd : (l.map Prod.fst).Nodup) (hm : m ∈ l) : l.lookup m.1 = some m.2 := by
  induction l with
  | nil => cases hm
  | cons head rest ih =>
      obtain ⟨hnew, hrest⟩ := List.nodup_cons.mp hnd
      rcases List.mem_cons.mp hm with rfl | hm
      · exact lookup_cons_self m rest
      · have hne : m.1 ≠ head.1 := fun h => hnew (h ▸ List.mem_map_of_mem hm)
        rw [lookup_cons_of_ne hne]
        exact ih hrest hm

theorem mem_of_lookup_eq_some {key : String} {a : α} {l : List (String × α)}
    (h : l.lookup key = some a) : (key, a) ∈ l := by
  obtain ⟨before, after, rfl, -⟩ := List.lookup_eq_some_iff.mp h
  exact List.mem_append_right before List.mem_cons_self

theorem mem_map_fst_iff {key : String} {l : List (String × α)} :
    key ∈ l.map Prod.fst ↔ (l.lookup key).isSome := by
  rw [List.lookup_isSome_iff, List.mem_map]
  simp only [beq_iff_eq, eq_comm (a := key)]

/-- Values may be changed before they are looked up or after. -/
theorem lookup_map (g : String → α → β) (key : String) (l : List (String × α)) :
    (l.map fun e => (e.1, g e.1 e.2)).lookup key = (l.lookup key).map (g key) := by
  induction l with
  | nil => rfl
  | cons m rest ih =>
      obtain ⟨k, v⟩ := m
      by_cases hkey : key = k
      · subst hkey
        simp
      · rw [List.map_cons, lookup_cons_of_ne hkey, lookup_cons_of_ne hkey, ih]

/-- Lists with the same distinct names are equal if they agree on every name. -/
theorem ext_lookup {l l' : List (String × α)} (hnames : l.map Prod.fst = l'.map Prod.fst)
    (hnd : (l.map Prod.fst).Nodup)
    (h : ∀ key ∈ l.map Prod.fst, l.lookup key = l'.lookup key) : l = l' := by
  induction l generalizing l' with
  | nil => exact (List.map_eq_nil_iff.mp hnames.symm).symm
  | cons m rest ih =>
      obtain ⟨m', rest', rfl⟩ : ∃ m' rest', l' = m' :: rest' :=
        List.exists_cons_of_ne_nil (by rintro rfl; simp at hnames)
      obtain ⟨hname, hnames⟩ := List.cons.inj hnames
      obtain ⟨hnew, hnd⟩ := List.nodup_cons.mp hnd
      have hvalue : m.2 = m'.2 := by
        have heq := h m.1 List.mem_cons_self
        rw [lookup_cons_self, hname, lookup_cons_self] at heq
        exact Option.some.inj heq
      have hrest : rest = rest' := by
        refine ih hnames hnd fun key hkey => ?_
        have hne : key ≠ m.1 := by
          rintro rfl
          exact hnew hkey
        have heq := h key (List.mem_cons_of_mem _ hkey)
        rwa [lookup_cons_of_ne hne, lookup_cons_of_ne (hname ▸ hne)] at heq
      rw [Prod.ext hname hvalue, hrest]

/-! Names and values in two lists, each value at the position of its name. -/

theorem map_fst_zip_sublist (keys : List String) (items : List α) :
    ((keys.zip items).map Prod.fst).Sublist keys := by
  induction keys generalizing items with
  | nil => exact .refl []
  | cons key keys ih =>
      cases items with
      | nil => exact List.nil_sublist _
      | cons j rest => exact (ih rest).cons_cons key

/-- Under a key stands what is at its position, if there is anything. -/
theorem lookup_zip {keys : List String} {items : List α} (hnd : keys.Nodup) {i : Nat}
    {key : String} (hkey : keys[i]? = some key) :
    (keys.zip items).lookup key = items[i]? := by
  cases hitem : items[i]? with
  | some j =>
      have hmem : (key, j) ∈ keys.zip items :=
        List.mem_of_getElem? (List.getElem?_zip_eq_some.mpr ⟨hkey, hitem⟩)
      exact lookup_eq_some_of_mem (hnd.sublist (map_fst_zip_sublist keys items)) hmem
  | none =>
      refine lookup_eq_none_of_not_mem fun hmem => ?_
      obtain ⟨⟨k, j⟩, hzip, rfl⟩ := List.mem_map.mp hmem
      obtain ⟨n, hn⟩ := List.mem_iff_getElem?.mp hzip
      obtain ⟨hk, hj⟩ := List.getElem?_zip_eq_some.mp hn
      have hlength := (List.getElem?_eq_some_iff.mp hk).1
      obtain rfl := (List.getElem?_inj hlength hnd).mp (hk.trans hkey.symm)
      rw [hitem] at hj
      cases hj

end List

/-! ## Objects in order -/

theorem Ascending.nodup {members : List Member} (h : Ascending members) :
    (members.map Prod.fst).Nodup := by
  refine List.Pairwise.imp (fun {a b} hlt => ?_) h
  rintro rfl
  exact Std.lt_irrefl hlt

/-- Members in order are equal if they agree on every name. -/
theorem Ascending.ext_lookup {l l' : List Member} (h : Ascending l) (h' : Ascending l')
    (hsame : ∀ key, l.lookup key = l'.lookup key) : l = l' := by
  have hnames : l.map Prod.fst = l'.map Prod.fst := by
    refine List.Pairwise.eq_of_mem_iff h h' fun key => ?_
    rw [mem_map_fst_iff, mem_map_fst_iff, hsame]
  exact Json.ext_lookup hnames h.nodup fun key _ => hsame key

/-- Of two values given to a name the later one counts. -/
theorem insert_insert (name : String) (value earlier : Json) (members : List Member) :
    insert name value (insert name earlier members) = insert name value members := by
  induction members with
  | nil => simp [insert]
  | cons m rest ih =>
      obtain ⟨k, v⟩ := m
      by_cases hlt : name < k
      · simp [insert, hlt]
      · by_cases heq : name = k
        · simp [insert, heq]
        · simp only [insert, if_neg hlt, if_neg heq, ih]

/-- A name is given the value that it has. -/
theorem insert_of_lookup {name : String} {value : Json} {members : List Member}
    (h : Ascending members) (hvalue : members.lookup name = some value) :
    insert name value members = members := by
  refine (ascending_insert h).ext_lookup h fun key => ?_
  by_cases hkey : key = name
  · rw [hkey, lookup_insert_self, hvalue]
  · rw [lookup_insert_of_ne hkey]

/-- Members of distinct names, entered into an object in order. -/
theorem lookup_sortedMembers {into members : List Member}
    (hnames : (members.map Prod.fst).Nodup) (key : String) :
    (sortedMembers into members).lookup key
      = ((members.lookup key).map sorted).or (into.lookup key) := by
  induction members generalizing into with
  | nil => rfl
  | cons m rest ih =>
      obtain ⟨k, j⟩ := m
      obtain ⟨hnew, hrest⟩ := List.nodup_cons.mp hnames
      rw [sortedMembers, ih hrest]
      by_cases hkey : key = k
      · subst hkey
        rw [lookup_eq_none_of_not_mem hnew, lookup_insert_self, lookup_cons_self (key, j)]
        rfl
      · rw [lookup_insert_of_ne hkey, lookup_cons_of_ne hkey]

theorem mem_sortedMembers {into members : List Member} {m : Member}
    (h : m ∈ sortedMembers into members) :
    m ∈ into ∨ ∃ m' ∈ members, m = (m'.1, sorted m'.2) := by
  induction members generalizing into with
  | nil => exact .inl h
  | cons head rest ih =>
      obtain ⟨k, j⟩ := head
      rw [sortedMembers] at h
      rcases ih h with hinto | ⟨m', hm', rfl⟩
      · rcases mem_insert hinto with rfl | hinto
        · exact .inr ⟨(k, j), List.mem_cons_self, rfl⟩
        · exact .inl hinto
      · exact .inr ⟨m', List.mem_cons_of_mem _ hm', rfl⟩

/-! ## Values changed in place -/

/-- Members with their values changed, each with regard to its name. -/
def mapValues (g : String → Json → Json) (members : List Member) : List Member :=
  members.map fun m => (m.1, g m.1 m.2)

/-- Items with their values changed, each with regard to the name that its
position stands for; those behind the last name stay as they are. -/
def mapItems (g : String → Json → Json) : List String → List Json → List Json
  | name :: names, j :: rest => g name j :: mapItems g names rest
  | _, items => items

section MapValues

variable {g : String → Json → Json}

theorem map_fst_mapValues (g : String → Json → Json) (members : List Member) :
    (mapValues g members).map Prod.fst = members.map Prod.fst := by
  rw [mapValues, List.map_map]
  rfl

theorem lookup_mapValues (g : String → Json → Json) (key : String) (members : List Member) :
    (mapValues g members).lookup key = (members.lookup key).map (g key) :=
  lookup_map g key members

theorem mapValues_insert (g : String → Json → Json) (name : String) (value : Json)
    (members : List Member) :
    mapValues g (insert name value members)
      = insert name (g name value) (mapValues g members) := by
  induction members with
  | nil => rfl
  | cons m rest ih =>
      obtain ⟨k, v⟩ := m
      have hcons : mapValues g ((k, v) :: rest) = (k, g k v) :: mapValues g rest := rfl
      rw [hcons, insert, insert]
      split
      · rfl
      · split
        · rfl
        · rw [← ih]
          rfl

theorem ordered_mapValues (h : ∀ key j, Ordered j → Ordered (g key j)) {members : List Member}
    (hm : Ordered (object members)) : Ordered (object (mapValues g members)) := by
  obtain ⟨hascending, hordered⟩ := hm
  refine ⟨?_, orderedMembers_iff.mpr fun m hm => ?_⟩
  · rw [Ascending, map_fst_mapValues]
    exact hascending
  · obtain ⟨n, hn, rfl⟩ := List.mem_map.mp hm
    exact h n.1 n.2 (orderedMembers_iff.mp hordered n hn)

theorem leafPathsOf_mapValues (h : ∀ key j, leafPaths (g key j) = leafPaths j)
    (members : List Member) : leafPathsOf (mapValues g members) = leafPathsOf members := by
  induction members with
  | nil => rfl
  | cons m rest ih =>
      obtain ⟨k, v⟩ := m
      have hcons : mapValues g ((k, v) :: rest) = (k, g k v) :: mapValues g rest := rfl
      rw [hcons, leafPathsOf, leafPathsOf, h, ih]

theorem length_mapItems (g : String → Json → Json) (names : List String) (items : List Json) :
    (mapItems g names items).length = items.length := by
  induction names generalizing items with
  | nil => rfl
  | cons name names ih =>
      cases items with
      | nil => rfl
      | cons j rest => exact congrArg (· + 1) (ih rest)

theorem orderedItems_mapItems (h : ∀ key j, Ordered j → Ordered (g key j)) (names : List String)
    {items : List Json} (hitems : OrderedItems items) : OrderedItems (mapItems g names items) := by
  induction names generalizing items with
  | nil => exact hitems
  | cons name names ih =>
      cases items with
      | nil => exact hitems
      | cons j rest => exact ⟨h name j hitems.1, ih hitems.2⟩

end MapValues

/-! ## Leaves -/

theorem mem_leafPathsOf_iff {members : List Member} {path : List String} :
    path ∈ leafPathsOf members ↔
      ∃ m ∈ members, ∃ rest ∈ leafPaths m.2, m.1 :: rest = path := by
  induction members with
  | nil => simp [leafPathsOf]
  | cons m rest ih =>
      obtain ⟨k, j⟩ := m
      rw [leafPathsOf, List.mem_append, List.mem_map, ih]
      simp only [List.mem_cons, or_and_right, exists_or, exists_eq_left]

/-- The way to a leaf of an object names a member. -/
theorem nil_notMem_leafPathsOf (members : List Member) : [] ∉ leafPathsOf members := by
  intro h
  obtain ⟨m, -, rest, -, hpath⟩ := mem_leafPathsOf_iff.mp h
  cases hpath

theorem cons_mem_leafPathsOf_iff {members : List Member} (h : Ascending members)
    {name : String} {below : List String} :
    name :: below ∈ leafPathsOf members ↔
      ∃ j, members.lookup name = some j ∧ below ∈ leafPaths j := by
  rw [mem_leafPathsOf_iff]
  constructor
  · rintro ⟨m, hm, rest, hrest, heq⟩
    obtain ⟨rfl, rfl⟩ := List.cons.inj heq
    exact ⟨m.2, lookup_eq_some_of_mem h.nodup hm, hrest⟩
  · rintro ⟨j, hj, hbelow⟩
    exact ⟨(name, j), mem_of_lookup_eq_some hj, below, hbelow, rfl⟩

/-- Only objects have leaves below them. -/
theorem exists_object_of_cons_mem {j : Json} {name : String} {below : List String}
    (h : name :: below ∈ leafPaths j) :
    ∃ members, j = object members ∧ name :: below ∈ leafPathsOf members := by
  cases j with
  | scalar s => exact absurd (List.mem_singleton.mp h) (List.cons_ne_nil _ _)
  | array items => exact absurd (List.mem_singleton.mp h) (List.cons_ne_nil _ _)
  | object members => exact ⟨members, rfl, h⟩

end IndexerSettings.Json
