import IndexerSettings.Proofs.Json.Leaves
import IndexerSettings.Proofs.Settings.Documents

/-!
# Settings as documents

Every section is written as the values of its fields under their keys, so in
the document of some settings the value of each field stands where it is read
from.  Only a number that is not finite would not be read as what it was.
-/

namespace IndexerSettings

open Settings.Part (exists_lookup_values)
open Json (Member sorted sortedMembers lookup_map lookup_eq_some_of_mem mem_of_lookup_eq_some
  lookup_sortedMembers mem_sortedMembers leaves_of_isLeaf mem_leavesOf_iff)

/-! ## Values -/

namespace FieldValue

/-- How a value is written. -/
def toJson : FieldValue → Json
  | bool b => .scalar (.bool b)
  | int n => .scalar (.ofInt64 n)
  | uint n => .scalar (.ofUInt64 n)
  | float x => .scalar (.ofBinary64 x)
  | string s => .scalar (.string s)

theorem isLeaf_toJson (v : FieldValue) : v.toJson.IsLeaf := by
  cases v <;> exact nofun

theorem sorted_toJson (v : FieldValue) : sorted v.toJson = v.toJson := by
  cases v <;> rfl

/-- A value that JSON has a form for. -/
def IsWritable : FieldValue → Prop
  | float x => x.isFinite = true
  | _ => True

/-- What is written of a value is read as that value. -/
theorem valueOf?_toJson {v : FieldValue} (h : v.IsWritable) :
    v.kind.valueOf? v.toJson = some v := by
  cases v with
  | bool b => rfl
  | int n =>
      have hle : n.toInt ≤ 0x7fffffffffffffff := by
        have := n.toInt_lt
        omega
      show (if n.toInt ≤ 0x7fffffffffffffff then some (int (.ofInt n.toInt)) else none) = _
      rw [if_pos hle, Int64.ofInt_toInt]
  | uint n =>
      show (if 0 ≤ (n.toNat : Int) then some (uint (.ofNat (n.toNat : Int).toNat)) else none) = _
      rw [if_pos (Int.natCast_nonneg _), Int.toNat_natCast, UInt64.ofNat_toNat]
  | float x =>
      have hnumber : Json.Number.ofBinary64? x = some (.real x h) := dif_pos h
      rw [toJson, Json.Scalar.ofBinary64, hnumber]
      rfl
  | string s => rfl

theorem read_toJson {v : FieldValue} (h : v.IsWritable) : v.kind.read v.toJson = .ok v := by
  rw [FieldKind.read, valueOf?_toJson h]

end FieldValue

/-! ## Sections -/

namespace Settings

namespace Part

/-- The members that a section is written as. -/
def members (p : Part) (x : p.Carrier) : List Member :=
  (p.values x).map fun e => (e.1, e.2.toJson)

theorem toJson_eq (p : Part) (x : p.Carrier) : p.toJson x = .object (p.members x) := by
  cases p <;> rfl

theorem nodup_values (p : Part) (x : p.Carrier) : ((p.values x).map Prod.fst).Nodup :=
  p.map_fst_values x ▸ p.nodup_kinds

theorem nodup_members (p : Part) (x : p.Carrier) : ((p.members x).map Prod.fst).Nodup := by
  rw [members, List.map_map]
  exact p.nodup_values x

theorem members_bindings (s : Settings) :
    Binding.members bindings s = all.map fun p => (p.scope, p.toJson (p.get s)) := rfl

theorem lookup_members_bindings (s : Settings) (p : Part) :
    (Binding.members bindings s).lookup p.scope = some (.object (p.members (p.get s))) := by
  rw [← toJson_eq]
  cases p <;> rfl

end Part

/-! ## Documents -/

theorem get?_toDocument (s : Settings) (p : Part) :
    s.toDocument.get? p.scope = some (.object (sortedMembers [] (p.members (p.get s)))) := by
  have hnames : ((Binding.members bindings s).map Prod.fst).Nodup := by
    rw [show (Binding.members bindings s).map Prod.fst = Part.all.map Part.scope from rfl]
    decide
  rw [Document.get?]
  show (sortedMembers [] (Binding.members bindings s)).lookup p.scope = _
  rw [lookup_sortedMembers hnames, Part.lookup_members_bindings]
  rfl

theorem fields?_toDocument (s : Settings) (p : Part) :
    s.toDocument.fields? p.scope = some (sortedMembers [] (p.members (p.get s))) := by
  rw [Document.fields?, get?_toDocument]

theorem Part.lookup_sorted_members (p : Part) (x : p.Carrier) (key : String) :
    (sortedMembers [] (p.members x)).lookup key
      = ((p.values x).lookup key).map FieldValue.toJson := by
  have hmembers := lookup_map (fun _ => FieldValue.toJson) key (p.values x)
  rw [lookup_sortedMembers (p.nodup_members _), members, hmembers]
  cases (p.values x).lookup key with
  | none => rfl
  | some v => exact congrArg some v.sorted_toJson

/-- In the document of some settings the value of each field is the one
written for it. -/
theorem at?_toDocument (s : Settings) (p : Part) (key : String) :
    s.toDocument.at? p.scope key = (s.value? p.scope key).map FieldValue.toJson := by
  rw [Document.at?, fields?_toDocument, Option.bind_some, Part.lookup_sorted_members, value?_scope]

/-- A section of the document of some settings. -/
theorem mem_members_toDocument {s : Settings} {m : Member} (h : m ∈ s.toDocument.members) :
    ∃ p : Part, m = (p.scope, .object (sortedMembers [] (p.members (p.get s)))) := by
  rcases mem_sortedMembers h with hnil | ⟨m', hm', rfl⟩
  · cases hnil
  rw [Part.members_bindings] at hm'
  obtain ⟨p, -, rfl⟩ := List.mem_map.mp hm'
  exact ⟨p, by rw [Part.toJson_eq]; rfl⟩

/-- A field of a section as it is written. -/
theorem Part.mem_sorted_members {p : Part} {x : p.Carrier} {n : Member}
    (h : n ∈ sortedMembers [] (p.members x)) : ∃ e ∈ p.values x, n = (e.1, e.2.toJson) := by
  rcases mem_sortedMembers h with hnil | ⟨n', hn', rfl⟩
  · cases hnil
  obtain ⟨e, he, rfl⟩ := List.mem_map.mp hn'
  exact ⟨e, he, by rw [FieldValue.sorted_toJson]⟩

/-- The leaves of the document of some settings are the values of the fields. -/
theorem mem_leaves_toDocument {s : Settings} {path : List String} {j : Json} :
    (path, j) ∈ s.toDocument.leaves ↔ ∃ (p : Part) (f : Field) (v : FieldValue),
      f ∈ p.owner.allFields ∧ s.value? p.scope f.key = some v
      ∧ path = [p.scope, f.key] ∧ j = v.toJson := by
  constructor
  · intro h
    obtain ⟨m, hm, below, hbelow, rfl⟩ := mem_leavesOf_iff.mp h
    obtain ⟨p, rfl⟩ := mem_members_toDocument hm
    obtain ⟨n, hn, below, hleaf, rfl⟩ := mem_leavesOf_iff.mp hbelow
    obtain ⟨e, he, rfl⟩ := Part.mem_sorted_members hn
    rw [leaves_of_isLeaf e.2.isLeaf_toJson, List.mem_singleton] at hleaf
    obtain ⟨rfl, rfl⟩ := Prod.mk.inj hleaf
    have hkey : e.1 ∈ p.kinds.map Prod.fst := by
      rw [← p.map_fst_values (p.get s)]
      exact List.mem_map_of_mem he
    obtain ⟨k, hk, hke⟩ := List.mem_map.mp hkey
    obtain ⟨f, hf, hfkey⟩ := List.mem_map.mp (p.mem_keys_of_mem_kinds k hk)
    have hvalue : s.value? p.scope e.1 = some e.2 := by
      rw [value?_scope]
      exact lookup_eq_some_of_mem (p.nodup_values _) he
    rw [hke] at hfkey
    exact ⟨p, f, e.2, hf, hfkey ▸ hvalue, by rw [hfkey], rfl⟩
  · rintro ⟨p, f, v, hf, hv, rfl, rfl⟩
    have hfield : (sortedMembers [] (p.members (p.get s))).lookup f.key = some v.toJson := by
      rw [Part.lookup_sorted_members, ← value?_scope, hv]
      rfl
    refine mem_leavesOf_iff.mpr ⟨_, mem_of_lookup_eq_some (get?_toDocument s p), [f.key], ?_, rfl⟩
    refine mem_leavesOf_iff.mpr ⟨_, mem_of_lookup_eq_some hfield, [], ?_, rfl⟩
    rw [leaves_of_isLeaf v.isLeaf_toJson]
    exact List.mem_singleton_self _

/-- They are at the keys that are declared. -/
theorem mem_leafPaths_toDocument {s : Settings} {path : List String} :
    path ∈ s.toDocument.leafPaths ↔
      ∃ p : Part, ∃ key ∈ p.owner.keys, path = [p.scope, key] := by
  rw [← Document.map_fst_leaves, List.mem_map]
  constructor
  · rintro ⟨leaf, hleaf, rfl⟩
    obtain ⟨p, f, -, hf, -, hpath, -⟩ := mem_leaves_toDocument.mp hleaf
    exact ⟨p, f.key, List.mem_map_of_mem hf, hpath⟩
  · rintro ⟨p, key, hkey, rfl⟩
    obtain ⟨f, hf, rfl⟩ := List.mem_map.mp hkey
    obtain ⟨v, hv, -⟩ := exists_lookup_values hf (p.get s)
    rw [← value?_scope] at hv
    exact ⟨_, mem_leaves_toDocument.mpr ⟨p, f, v, hf, hv, rfl, rfl⟩, rfl⟩

end Settings

end IndexerSettings
