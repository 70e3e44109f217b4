import IndexerSettings.Proofs.Settings.Assigning

/-!
# Sections from objects

Each section's bindings stand for the fields declared for it, one for one and
in the same order.  An object is therefore read exactly if every member under
the key of a declared field fits the kind declared, and its section then has
the values supplied and, for all other fields, the defaults
(`Part.ofJson_object_eq_ok_iff`).
-/

namespace IndexerSettings

open Json (Member)
open Binding (Stores stores_text stores_bool stores_int64 stores_int64_within
  stores_uint64_within stores_binary64_within map_values_assignAll)
open FieldValues (supply foldlM_phases_eq_ok_iff)
open Outcome (map_eq_ok_iff map_bind_of_map)

/-! ## Bindings and declared fields -/

theorem DatabaseSettings.bindings_store :
    List.Forall₂ (Stores values) Section.database.fields bindings := by
  repeat' apply List.Forall₂.cons
  all_goals first
    | exact stores_text fun _ _ => rfl
    | exact .nil

theorem LogSettings.bindings_store :
    List.Forall₂ (Stores values) Section.log.fields bindings :=
  .cons (stores_text fun _ _ => rfl) <| .cons (stores_text fun _ _ => rfl) <|
    .cons (stores_bool fun _ _ => rfl) .nil

theorem ProbeSettings.bindings_store :
    List.Forall₂ (Stores values) Section.probe.fields bindings := by
  repeat' apply List.Forall₂.cons
  all_goals first
    | exact stores_text fun _ _ => rfl
    | exact .nil

namespace BaseSettings

theorem throttlingBindings_store :
    List.Forall₂ (Stores values) Section.throttling.fields throttlingBindings :=
  .cons (stores_binary64_within fun _ _ => rfl) .nil

theorem retryBindings_store :
    List.Forall₂ (Stores values) Section.retry.fields retryBindings :=
  .cons (stores_int64_within fun _ _ => rfl) <|
    .cons (stores_uint64_within fun _ _ => rfl) .nil

theorem ownBindings_store :
    List.Forall₂ (Stores values) Section.base.fields ownBindings := by
  repeat' apply List.Forall₂.cons
  all_goals first
    | exact stores_text fun _ _ => rfl
    | exact stores_bool fun _ _ => rfl
    | exact stores_int64 fun _ _ => rfl
    | exact .nil

end BaseSettings

theorem FlagSettings.bindings_store :
    List.Forall₂ (Stores values) Section.flags.fields bindings :=
  .cons (stores_bool fun _ _ => rfl) .nil

/-! ## Sections -/

namespace Settings.Part

/-- The fields of a section, in the lists that its members are stored for one
after the other. -/
def phases : Part → List (List Field)
  | database => [Section.database.fields]
  | log => [Section.log.fields]
  | probe => [Section.probe.fields]
  | base => [Section.base.fields, Section.throttling.fields, Section.retry.fields]
  | flags => [Section.flags.fields]

theorem flatten_phases (p : Part) : p.phases.flatten = p.owner.allFields := by
  cases p <;> rfl

theorem nodup_keys (p : Part) : (p.owner.allFields.map Field.key).Nodup := by
  cases p <;> decide

/-- Reading an object, seen through the values of the section. -/
theorem map_values_ofJson (p : Part) (members : List Member) :
    (p.ofJson (.object members)).map p.values
      = p.phases.foldlM (fun vals fields => members.foldlM (FieldValues.assign fields) vals)
          (p.values p.default) := by
  cases p <;> simp only [phases, List.foldlM_cons, List.foldlM_nil, bind_pure]
  case database => exact map_values_assignAll DatabaseSettings.bindings_store {} members
  case log => exact map_values_assignAll LogSettings.bindings_store {} members
  case probe => exact map_values_assignAll ProbeSettings.bindings_store {} members
  case base =>
      have hown := map_values_assignAll BaseSettings.ownBindings_store {} members
      refine map_bind_of_map hown fun s => map_bind_of_map ?_ fun s => ?_
      · exact map_values_assignAll BaseSettings.throttlingBindings_store s members
      · exact map_values_assignAll BaseSettings.retryBindings_store s members
  case flags => exact map_values_assignAll FlagSettings.bindings_store {} members

/-- Every member of an object that stands under the key of a declared field
fits the kind declared. -/
def Accepts (p : Part) (members : List Member) : Prop :=
  ∀ f ∈ p.owner.allFields, ∀ j, members.lookup f.key = some j → f.kind.Fits j

theorem map_values_ofJson_eq_ok_iff {p : Part} {members : List Member}
    (hnames : (members.map Prod.fst).Nodup) {vals : FieldValues} :
    (p.ofJson (.object members)).map p.values = .ok vals ↔
      p.Accepts members
      ∧ vals = supply p.owner.allFields members (p.values p.default) := by
  have hnd := p.nodup_keys
  rw [← flatten_phases] at hnd
  rw [map_values_ofJson, foldlM_phases_eq_ok_iff hnd hnames, flatten_phases, Accepts]

theorem ofJson_object_eq_ok_iff {p : Part} {members : List Member}
    (hnames : (members.map Prod.fst).Nodup) {x : p.Carrier} :
    p.ofJson (.object members) = .ok x ↔
      p.Accepts members
      ∧ p.values x = supply p.owner.allFields members (p.values p.default) := by
  rw [← map_values_ofJson_eq_ok_iff hnames, map_eq_ok_iff]
  constructor
  · intro hx
    exact ⟨x, hx, rfl⟩
  · rintro ⟨y, hy, hvalues⟩
    rw [hy, p.values_injective hvalues]

theorem exists_ofJson_object_iff {p : Part} {members : List Member}
    (hnames : (members.map Prod.fst).Nodup) :
    (∃ x, p.ofJson (.object members) = .ok x) ↔ p.Accepts members := by
  constructor
  · rintro ⟨x, hx⟩
    exact ((ofJson_object_eq_ok_iff hnames).mp hx).1
  · intro haccepts
    have hmap := (map_values_ofJson_eq_ok_iff hnames).mpr ⟨haccepts, rfl⟩
    obtain ⟨x, hx, -⟩ := map_eq_ok_iff.mp hmap
    exact ⟨x, hx⟩

end Settings.Part

end IndexerSettings
