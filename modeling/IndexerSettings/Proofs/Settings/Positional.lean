import IndexerSettings.Proofs.Settings.Documents

/-!
# Sections from arrays

A section may be written as an array, which then says of its items what an
object would say that has each under the key that its position stands for
(`Settings.Part.ofJson_array`).  There may be fewer items than keys, but not
more.  The section that takes others in is only read from an object, and
nothing is read from a scalar.
-/

namespace IndexerSettings

open Json (Member map_fst_zip_sublist)
open Outcome (bind_eq_ok_iff foldlM_congr)

namespace Binding

variable {σ : Type} {bindings : List (Binding σ)}

/-- Storing items by position is storing them by the keys at their positions. -/
theorem foldlM_store_zip (hnd : (bindings.map key).Nodup) (items : List Json) (s : σ) :
    (bindings.zip items).foldlM (fun s (b, j) => b.store j s) s
      = assignAll bindings s ((bindings.map key).zip items) := by
  rw [assignAll, List.zip_map_left, List.foldlM_map]
  refine foldlM_congr (fun c hc s => ?_) s
  obtain ⟨b, j⟩ := c
  have hfind : bindings.find? (·.key == b.key) = some b :=
    find?_of_nodup_keys hnd (List.of_mem_zip hc).1
  simp only [assign, Prod.map_apply, id_eq, hfind]

theorem read_array_of_le (hnd : (bindings.map key).Nodup) (title : String) (default : σ)
    {items : List Json} (hlength : items.length ≤ bindings.length) :
    read title bindings default (.array items)
      = read title bindings default (.object ((bindings.map key).zip items)) := by
  rw [read, read, assignItems, foldlM_store_zip hnd]
  simp only [if_neg (Nat.not_lt.mpr hlength)]
  exact bind_pure _

theorem read_array_ne_ok {title : String} {default x : σ} {items : List Json}
    (hlength : bindings.length < items.length) :
    read title bindings default (.array items) ≠ .ok x := by
  intro h
  rw [read, assignItems] at h
  simp only [if_pos hlength] at h
  obtain ⟨s, -, hs⟩ := bind_eq_ok_iff.mp h
  cases hs

end Binding

/-! ## Sections -/

/-- The members that a section is read from: those of an object, or the items of
an array under the keys at their positions.  A section that takes others in has
no positions. -/
def Section.membersOf? (owner : Section) : Option Json → Option (List Member)
  | none => some []
  | some (.object members) => some members
  | some (.array items) =>
    if owner.composed.isEmpty ∧ items.length ≤ owner.keys.length then some (owner.keys.zip items)
    else none
  | some (.scalar _) => none

theorem Section.membersOf?_array {owner : Section} {items : List Json}
    {members : List Json.Member} (h : owner.membersOf? (some (.array items)) = some members) :
    owner.composed.isEmpty ∧ items.length ≤ owner.keys.length
      ∧ members = owner.keys.zip items := by
  rw [membersOf?] at h
  split at h
  · rename_i hform
    exact ⟨hform.1, hform.2, (Option.some.inj h).symm⟩
  · cases h

namespace Settings.Part

variable {p : Part} {items : List Json}

/-- A section that takes no others in is read through bindings of its keys. -/
theorem exists_bindings (hp : p.owner.composed.isEmpty) :
    ∃ (title : String) (bindings : List (Binding p.Carrier)),
      p.ofJson = Binding.read title bindings p.default
        ∧ bindings.map Binding.key = p.owner.keys := by
  cases p with
  | base => cases hp
  | database => exact ⟨"Database", DatabaseSettings.bindings, rfl, rfl⟩
  | log => exact ⟨"Log", LogSettings.bindings, rfl, rfl⟩
  | probe => exact ⟨"Probe", ProbeSettings.bindings, rfl, rfl⟩
  | flags => exact ⟨"Flags", FlagSettings.bindings, rfl, rfl⟩

theorem ofJson_array (hp : p.owner.composed.isEmpty)
    (hlength : items.length ≤ p.owner.keys.length) :
    p.ofJson (.array items) = p.ofJson (.object (p.owner.keys.zip items)) := by
  obtain ⟨title, bindings, hread, hkeys⟩ := exists_bindings hp
  have hnd : (bindings.map Binding.key).Nodup := hkeys ▸ p.nodup_keys
  rw [← hkeys, List.length_map] at hlength
  rw [hread, ← hkeys]
  exact Binding.read_array_of_le hnd title p.default hlength

theorem ofJson_array_ne_ok
    (h : ¬(p.owner.composed.isEmpty ∧ items.length ≤ p.owner.keys.length)) (x : p.Carrier) :
    p.ofJson (.array items) ≠ .ok x := by
  by_cases hp : p.owner.composed.isEmpty
  · obtain ⟨title, bindings, hread, hkeys⟩ := exists_bindings hp
    have hlength : bindings.length < items.length := by
      rw [← List.length_map (f := Binding.key), hkeys]
      exact Nat.not_le.mp fun hle => h ⟨hp, hle⟩
    rw [hread]
    exact Binding.read_array_ne_ok hlength
  · cases p with
    | base => exact nofun
    | _ => exact absurd rfl hp

theorem ofJson_scalar_ne_ok (p : Part) (v : Json.Scalar) (x : p.Carrier) :
    p.ofJson (.scalar v) ≠ .ok x := by
  cases p <;> exact nofun

theorem ofJson_object_nil (p : Part) : p.ofJson (.object []) = .ok p.default := by
  cases p <;> rfl

/-- A section from what stands under its scope, in whichever form. -/
theorem readOr_eq_ok_iff_membersOf? {supplied : Option Json}
    (hnames : ∀ members, supplied = some (.object members) → (members.map Prod.fst).Nodup)
    {x : p.Carrier} :
    p.readOr p.default supplied = .ok x ↔
      ∃ members, p.owner.membersOf? supplied = some members
        ∧ ∀ f ∈ p.owner.allFields, ∃ v,
          (p.values x).lookup f.key = some v ∧ f.Takes p.scope (members.lookup f.key) v := by
  unfold Section.membersOf?
  split
  · have hnil : (([] : List Member).map Prod.fst).Nodup := List.nodup_nil
    rw [readOr, ← ofJson_object_nil, ofJson_object_eq_ok_iff_takes hnil]
    simp only [Option.some.injEq, exists_eq_left']
  · rename_i members
    simp only [Option.some.injEq, exists_eq_left']
    exact ofJson_object_eq_ok_iff_takes (hnames members rfl)
  · rename_i items
    rw [readOr]
    split
    · rename_i hform
      have hzip : ((p.owner.keys.zip items).map Prod.fst).Nodup :=
        p.nodup_keys.sublist (map_fst_zip_sublist _ _)
      rw [ofJson_array hform.1 hform.2, ofJson_object_eq_ok_iff_takes hzip]
      simp only [Option.some.injEq, exists_eq_left']
    · rename_i hform
      simp only [ofJson_array_ne_ok hform x, reduceCtorEq, false_and, exists_false]
  · rename_i v
    rw [readOr]
    simp only [ofJson_scalar_ne_ok p v x, reduceCtorEq, false_and, exists_false]

end Settings.Part

end IndexerSettings
