import Mathlib.Data.List.Forall2
import Mathlib.Data.List.Nodup
import IndexerSettings.Proofs.Json.Lookup
import IndexerSettings.Proofs.Outcome
import IndexerSettings.Proofs.Settings.Part

/-!
# Storing the members of an object

A section is read by storing one member of an object after the other.  Seen
through its values, each step replaces the value under one key or does
nothing (`FieldValues.assign`), whatever the type of the section, and all steps
together replace the values of exactly those fields that the object supplies
(`FieldValues.foldlM_assign_eq_ok_iff`).
-/

namespace IndexerSettings

open Json (Member lookup_cons_self lookup_cons_of_ne lookup_eq_none_of_not_mem)
open Outcome (map_eq_ok_iff bind_eq_ok_iff map_foldlM_of_map)

/-! ## Values -/

namespace FieldValues

/-- Gives the value under a key for another one. -/
def withValue (vals : FieldValues) (key : String) (v : FieldValue) : FieldValues :=
  vals.map fun e => if e.1 = key then (e.1, v) else e

/-- What a member of an object does to values: it replaces the one under its
name, if a field of that name is to be read. -/
def assign (fields : List Field) (vals : FieldValues) (m : Member) :
    Except Mismatch FieldValues :=
  match fields.find? (·.key == m.1) with
  | some f => (f.kind.read m.2).map fun v => withValue vals m.1 v
  | none => .ok vals

/-- The value that an object supplies for a key, if a field of that name is to
be read. -/
def supplied? (fields : List Field) (members : List Member) (key : String) :
    Option FieldValue := do
  let f ← fields.find? (·.key == key)
  let j ← members.lookup key
  f.kind.valueOf? j

/-- Values with those in place of them that an object supplies. -/
def supply (fields : List Field) (members : List Member) (vals : FieldValues) :
    FieldValues :=
  vals.map fun e => (e.1, (supplied? fields members e.1).getD e.2)

theorem supply_eq_self {fields : List Field} {members : List Member}
    (h : ∀ key, supplied? fields members key = none) (vals : FieldValues) :
    supply fields members vals = vals := by
  simp [supply, h]

theorem supply_nil (fields : List Field) (vals : FieldValues) :
    supply fields [] vals = vals := by
  refine supply_eq_self (fun key => ?_) vals
  rw [supplied?]
  cases fields.find? (·.key == key) <;> rfl

/-- Fields supplied in two rounds, where no key is declared in both. -/
theorem supply_supply {fields fields' : List Field}
    (hdisj : ∀ f ∈ fields, ∀ g ∈ fields', f.key ≠ g.key) (members : List Member)
    (vals : FieldValues) :
    supply fields' members (supply fields members vals)
      = supply (fields ++ fields') members vals := by
  rw [supply, supply, supply, List.map_map]
  refine List.map_congr_left fun e _ => ?_
  cases hfind : fields.find? (·.key == e.1) with
  | none => simp [supplied?, hfind, List.find?_append]
  | some f =>
      have hkey : f.key = e.1 := by simpa using List.find?_some hfind
      have hnone : fields'.find? (·.key == e.1) = none := by
        rw [List.find?_eq_none]
        intro g hg heq
        exact hdisj f (List.mem_of_find?_eq_some hfind) g hg
          (hkey.trans (beq_iff_eq.mp heq).symm)
      simp [supplied?, hfind, hnone, List.find?_append]

theorem read_eq_ok_iff {kind : FieldKind} {j : Json} {v : FieldValue} :
    kind.read j = .ok v ↔ kind.valueOf? j = some v := by
  rw [FieldKind.read]
  cases kind.valueOf? j <;> simp

/-- The first member of an object, for fields of other names. -/
theorem supply_cons_of_none {fields : List Field} {m : Member}
    (hm : fields.find? (·.key == m.1) = none) (rest : List Member)
    (vals : FieldValues) : supply fields (m :: rest) vals = supply fields rest vals := by
  have hsame : ∀ key, supplied? fields (m :: rest) key = supplied? fields rest key := by
    intro key
    by_cases hkey : key = m.1
    · subst hkey
      simp [supplied?, hm]
    · rw [supplied?, supplied?, lookup_cons_of_ne hkey]
  simp [supply, hsame]

/-- The first member of an object, for the field of its name, where no other
member has that name. -/
theorem supply_cons_of_some {fields : List Field} {m : Member} {f : Field}
    {v : FieldValue} (hm : fields.find? (·.key == m.1) = some f)
    (hv : f.kind.valueOf? m.2 = some v) {rest : List Member}
    (hnew : m.1 ∉ rest.map Prod.fst) (vals : FieldValues) :
    supply fields (m :: rest) vals = supply fields rest (withValue vals m.1 v) := by
  rw [supply, supply, withValue, List.map_map]
  refine List.map_congr_left fun e _ => ?_
  by_cases he : e.1 = m.1
  · have hnone := lookup_eq_none_of_not_mem hnew
    simp [supplied?, he, hm, hnone, hv, lookup_cons_self]
  · simp [supplied?, lookup_cons_of_ne he, he]

/-- Members of distinct names are all stored exactly if each fits the field of
its name, and then they have been put in place of the values there were. -/
theorem foldlM_assign_eq_ok_iff {fields : List Field}
    (hnd : (fields.map Field.key).Nodup) {members : List Member}
    (hnames : (members.map Prod.fst).Nodup) {vals vals' : FieldValues} :
    members.foldlM (assign fields) vals = .ok vals' ↔
      (∀ f ∈ fields, ∀ j, members.lookup f.key = some j → f.kind.Fits j)
      ∧ vals' = supply fields members vals := by
  induction members generalizing vals with
  | nil => simp [supply_nil, pure, Except.pure, eq_comm]
  | cons m rest ih =>
      obtain ⟨hnew, hrest⟩ := List.nodup_cons.mp hnames
      rw [List.foldlM_cons, bind_eq_ok_iff]
      have hpast : ∀ f ∈ fields, f.key ≠ m.1 →
          (m :: rest).lookup f.key = rest.lookup f.key := by
        intro f _ hne
        exact lookup_cons_of_ne hne rest
      cases hfind : fields.find? (·.key == m.1) with
      | none =>
          have hne : ∀ f ∈ fields, f.key ≠ m.1 := by simpa using hfind
          simp only [assign, hfind, Except.ok.injEq, exists_eq_left', ih hrest,
            supply_cons_of_none hfind]
          refine and_congr_left' (forall₂_congr fun f hf => ?_)
          rw [hpast f hf (hne f hf)]
      | some f =>
          have hkey : f.key = m.1 := by simpa using List.find?_some hfind
          have hmem : f ∈ fields := List.mem_of_find?_eq_some hfind
          have hnone := lookup_eq_none_of_not_mem hnew
          simp only [assign, hfind, map_eq_ok_iff, read_eq_ok_iff]
          constructor
          · rintro ⟨_, ⟨v, hv, rfl⟩, hall⟩
            obtain ⟨hfit, rfl⟩ := (ih hrest).mp hall
            refine ⟨fun g hg j hj => ?_, (supply_cons_of_some hfind hv hnew vals).symm⟩
            by_cases hgkey : g.key = m.1
            · obtain rfl := List.inj_on_of_nodup_map hnd hg hmem (hgkey.trans hkey.symm)
              rw [hgkey, lookup_cons_self] at hj
              obtain rfl := Option.some.inj hj
              exact FieldKind.fits_iff.mpr ⟨v, hv⟩
            · exact hfit g hg j (hpast g hg hgkey ▸ hj)
          · rintro ⟨hfit, rfl⟩
            have hfitf := hfit f hmem m.2 (by rw [hkey, lookup_cons_self])
            obtain ⟨v, hv⟩ := FieldKind.fits_iff.mp hfitf
            refine ⟨_, ⟨v, hv, rfl⟩, (ih hrest).mpr ⟨fun g hg j hj => ?_,
              supply_cons_of_some hfind hv hnew vals⟩⟩
            by_cases hgkey : g.key = m.1
            · rw [hgkey, hnone] at hj
              cases hj
            · exact hfit g hg j (hpast g hg hgkey ▸ hj)

/-- Members stored in turn for several lists of fields. -/
theorem foldlM_phases_eq_ok_iff {phases : List (List Field)}
    (hnd : (phases.flatten.map Field.key).Nodup) {members : List Member}
    (hnames : (members.map Prod.fst).Nodup) {vals vals' : FieldValues} :
    phases.foldlM (fun vals fields => members.foldlM (assign fields) vals) vals = .ok vals' ↔
      (∀ f ∈ phases.flatten, ∀ j, members.lookup f.key = some j → f.kind.Fits j)
      ∧ vals' = supply phases.flatten members vals := by
  induction phases generalizing vals with
  | nil =>
      have hnone : ∀ key, supplied? [] members key = none := fun _ => rfl
      simp [supply_eq_self hnone, pure, Except.pure, eq_comm]
  | cons fields rest ih =>
      rw [List.flatten_cons, List.map_append, List.nodup_append] at hnd
      obtain ⟨hfields, hrest, hdisj⟩ := hnd
      have hdisj : ∀ f ∈ fields, ∀ g ∈ rest.flatten, f.key ≠ g.key :=
        fun f hf g hg => hdisj f.key (List.mem_map_of_mem hf) g.key (List.mem_map_of_mem hg)
      rw [List.foldlM_cons, bind_eq_ok_iff, List.flatten_cons]
      simp only [foldlM_assign_eq_ok_iff hfields hnames, ih hrest, List.forall_mem_append,
        ← supply_supply hdisj]
      constructor
      · rintro ⟨_, ⟨hfit, rfl⟩, hfits, rfl⟩
        exact ⟨⟨hfit, hfits⟩, rfl⟩
      · rintro ⟨⟨hfit, hfits⟩, rfl⟩
        exact ⟨_, ⟨hfit, rfl⟩, hfits, rfl⟩

end FieldValues

/-! ## Bindings -/

namespace Binding

variable {σ τ : Type} {values : σ → FieldValues}

/-- A binding stands for a field: what it stores is the value of the field's
kind that it reads, and it stores nothing else. -/
def Stores (values : σ → FieldValues) (f : Field) (b : Binding σ) : Prop :=
  b.key = f.key ∧ ∀ j s, (b.store j s).map values
    = (f.kind.read j).map fun v => (values s).withValue f.key v

theorem stores_of_reads {kind : FieldKind} {read : Json → Except Mismatch τ}
    {value : τ → FieldValue} {put : σ → τ → σ} {b : Binding σ} {help : String}
    (hread : ∀ j, kind.read j = (read j).map value)
    (hstore : ∀ j s, b.store j s = (read j).map (put s))
    (hput : ∀ s v, values (put s v) = (values s).withValue b.key (value v)) :
    Stores values ⟨b.key, kind, help⟩ b := by
  refine ⟨rfl, fun j s => ?_⟩
  rw [hstore, hread, Outcome.map_map, Outcome.map_map]
  simp only [hput]

theorem stores_text {key help : String} {get : σ → String} {put : σ → String → σ}
    (hput : ∀ s v, values (put s v) = (values s).withValue key (.string v)) :
    Stores values ⟨key, .string, help⟩ (text key get put) :=
  stores_of_reads FieldKind.read_string (fun _ _ => rfl) hput

theorem stores_bool {key help : String} {get : σ → Bool} {put : σ → Bool → σ}
    (hput : ∀ s v, values (put s v) = (values s).withValue key (.bool v)) :
    Stores values ⟨key, .bool, help⟩ (bool key get put) :=
  stores_of_reads FieldKind.read_bool (fun _ _ => rfl) hput

theorem stores_int64 {key help : String} {get : σ → Int64} {put : σ → Int64 → σ}
    (hput : ∀ s v, values (put s v) = (values s).withValue key (.int v)) :
    Stores values ⟨key, .int, help⟩ (int64 key get put) :=
  stores_of_reads FieldKind.read_int (fun _ _ => rfl) hput

/-! Bindings of a part stand for fields of the whole. -/

variable {ρ : Type} {get : σ → ρ} {put : σ → ρ → σ}

theorem stores_int64_within {key help : String} {getPart : ρ → Int64}
    {putPart : ρ → Int64 → ρ}
    (hput : ∀ s v, values (put s (putPart (get s) v)) = (values s).withValue key (.int v)) :
    Stores values ⟨key, .int, help⟩ ((int64 key getPart putPart).within get put) :=
  stores_of_reads FieldKind.read_int (fun _ _ => Outcome.map_map _ _) hput

theorem stores_uint64_within {key help : String} {getPart : ρ → UInt64}
    {putPart : ρ → UInt64 → ρ}
    (hput : ∀ s v, values (put s (putPart (get s) v)) = (values s).withValue key (.uint v)) :
    Stores values ⟨key, .uint, help⟩ ((uint64 key getPart putPart).within get put) :=
  stores_of_reads FieldKind.read_uint (fun _ _ => Outcome.map_map _ _) hput

theorem stores_binary64_within {key help : String} {getPart : ρ → Decimal.Binary64}
    {putPart : ρ → Decimal.Binary64 → ρ}
    (hput : ∀ s v, values (put s (putPart (get s) v)) = (values s).withValue key (.float v)) :
    Stores values ⟨key, .float, help⟩ ((binary64 key getPart putPart).within get put) :=
  stores_of_reads FieldKind.read_float (fun _ _ => Outcome.map_map _ _) hput

/-! ## Lists of bindings -/

/-- The binding and the field that a name is looked up as. -/
theorem find?_of_stores {fields : List Field} {bindings : List (Binding σ)}
    (h : List.Forall₂ (Stores values) fields bindings) (name : String) :
    (fields.find? (·.key == name) = none ∧ bindings.find? (·.key == name) = none)
    ∨ ∃ f b, fields.find? (·.key == name) = some f
      ∧ bindings.find? (·.key == name) = some b ∧ Stores values f b := by
  induction h with
  | nil => exact .inl ⟨rfl, rfl⟩
  | @cons f b fields bindings hfb _ ih =>
      by_cases hname : f.key = name
      · exact .inr ⟨f, b, by simp [hname], by simp [hfb.1, hname], hfb⟩
      · rw [List.find?_cons_of_neg (by simpa using hname),
          List.find?_cons_of_neg (by simpa [hfb.1] using hname)]
        exact ih

theorem map_values_assign {fields : List Field} {bindings : List (Binding σ)}
    (h : List.Forall₂ (Stores values) fields bindings) (s : σ) (m : Member) :
    (assign bindings s m).map values = FieldValues.assign fields (values s) m := by
  rw [assign, FieldValues.assign]
  rcases find?_of_stores h m.1 with ⟨hf, hb⟩ | ⟨f, b, hf, hb, hstores⟩
  · rw [hf, hb]
    rfl
  · have hkey : f.key = m.1 := by simpa using List.find?_some hf
    rw [hf, hb]
    exact hkey ▸ hstores.2 m.2 s

/-- Storing members through bindings, seen through the values, is storing them
for the fields that the bindings stand for. -/
theorem map_values_assignAll {fields : List Field} {bindings : List (Binding σ)}
    (h : List.Forall₂ (Stores values) fields bindings) (s : σ) (members : List Member) :
    (assignAll bindings s members).map values
      = members.foldlM (FieldValues.assign fields) (values s) := by
  have hsteps : ∀ m ∈ members, ∀ s, (assign bindings s m).map values
      = FieldValues.assign fields (values s) (id m) := fun m _ s => map_values_assign h s m
  have hfold := map_foldlM_of_map hsteps s
  rwa [List.map_id] at hfold

end Binding

end IndexerSettings
