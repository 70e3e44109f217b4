import IndexerSettings.Proofs.Settings.Values

/-!
# The parts of the settings

The five sections of the settings in one form, so that what holds of each is
said once: where a section stands, which fields are declared for it, and how
its own type is read, written and listed.
-/

namespace IndexerSettings

namespace Settings

/-- One of the sections. -/
inductive Part
  | database
  | log
  | probe
  | base
  | flags
  deriving DecidableEq

namespace Part

def all : List Part := [database, log, probe, base, flags]

theorem mem_all (p : Part) : p ∈ all := by
  cases p <;> decide

def scope : Part → String
  | database => "database"
  | log => "log"
  | probe => "probe"
  | base => "base"
  | flags => "flags"

theorem scope_injective {p q : Part} (h : p.scope = q.scope) : p = q := by
  cases p <;> cases q <;> first | rfl | exact absurd h (by decide)

theorem notMem_map_scope {parts : List Part} {name : String}
    (h : ∀ p : Part, p.scope ≠ name) : name ∉ parts.map scope := by
  intro hmem
  obtain ⟨p, -, hp⟩ := List.mem_map.mp hmem
  exact h p hp

/-- The section that declares the fields. -/
def owner : Part → Section
  | database => .database
  | log => .log
  | probe => .probe
  | base => .base
  | flags => .flags

/-- The registry holds these parts and nothing else. -/
theorem entries_indexer :
    Registry.indexer.entries = all.map fun p => (p.scope, p.owner) := rfl

theorem mem_entries (p : Part) : (p.scope, p.owner) ∈ Registry.indexer.entries := by
  rw [entries_indexer]
  exact List.mem_map_of_mem p.mem_all

theorem forall_entries_iff {P : String → Section → Prop} :
    (∀ e ∈ Registry.indexer.entries, P e.1 e.2) ↔ ∀ p : Part, P p.scope p.owner := by
  rw [entries_indexer, List.forall_mem_map]
  exact ⟨fun h p => h p p.mem_all, fun h p _ => h p⟩

/-- The settings of a section. -/
abbrev Carrier : Part → Type
  | database => DatabaseSettings
  | log => LogSettings
  | probe => ProbeSettings
  | base => BaseSettings
  | flags => FlagSettings

def default : (p : Part) → p.Carrier
  | database | log | probe | base | flags => {}

def get (s : Settings) : (p : Part) → p.Carrier
  | database => s.database
  | log => s.log
  | probe => s.probe
  | base => s.base
  | flags => s.flags

def put (s : Settings) : (p : Part) → p.Carrier → Settings
  | database, x => { s with database := x }
  | log, x => { s with log := x }
  | probe, x => { s with probe := x }
  | base, x => { s with base := x }
  | flags, x => { s with flags := x }

@[simp] theorem get_put (s : Settings) (p : Part) (x : p.Carrier) :
    p.get (p.put s x) = x := by
  cases p <;> rfl

theorem get_put_of_ne {p q : Part} (hne : p ≠ q) (s : Settings) (x : q.Carrier) :
    p.get (q.put s x) = p.get s := by
  cases p <;> cases q <;> first | rfl | exact absurd rfl hne

@[simp] theorem get_default (p : Part) : p.get {} = p.default := by
  cases p <;> rfl

theorem ext_get {s t : Settings} (h : ∀ p : Part, p.get s = p.get t) : s = t := by
  cases s
  cases t
  exact Settings.mk.injEq .. |>.mpr
    ⟨h .database, h .log, h .probe, h .base, h .flags⟩

def ofJson : (p : Part) → Json → Except Mismatch p.Carrier
  | database => DatabaseSettings.ofJson
  | log => LogSettings.ofJson
  | probe => ProbeSettings.ofJson
  | base => BaseSettings.ofJson
  | flags => FlagSettings.ofJson

def toJson : (p : Part) → p.Carrier → Json
  | database => DatabaseSettings.toJson
  | log => LogSettings.toJson
  | probe => ProbeSettings.toJson
  | base => BaseSettings.toJson
  | flags => FlagSettings.toJson

def values : (p : Part) → p.Carrier → FieldValues
  | database => DatabaseSettings.values
  | log => LogSettings.values
  | probe => ProbeSettings.values
  | base => BaseSettings.values
  | flags => FlagSettings.values

/-- The values of a section determine it. -/
theorem values_injective (p : Part) {x y : p.Carrier}
    (h : p.values x = p.values y) : x = y := by
  cases p with
  | database =>
      cases x; cases y
      simpa [values, DatabaseSettings.values] using h
  | log =>
      cases x; cases y
      simpa [values, LogSettings.values] using h
  | probe =>
      cases x; cases y
      simpa [values, ProbeSettings.values] using h
  | base =>
      rcases x with ⟨⟨_⟩, ⟨_, _⟩⟩
      rcases y with ⟨⟨_⟩, ⟨_, _⟩⟩
      simpa [values, BaseSettings.values, and_assoc] using h
  | flags =>
      cases x; cases y
      simpa [values, FlagSettings.values] using h

/-! ## Fields and their values -/

/-- The keys that have values, with the kinds of these. -/
def kinds (p : Part) : List (String × FieldKind) :=
  (p.values p.default).map fun e => (e.1, e.2.kind)

theorem map_kind_values (p : Part) (x : p.Carrier) :
    (p.values x).map (fun e => (e.1, e.2.kind)) = p.kinds := by
  cases p <;> rfl

theorem nodup_kinds (p : Part) : (p.kinds.map Prod.fst).Nodup := by
  cases p <;> decide

/-- What is declared has a value of the declared kind. -/
theorem lookup_kinds (p : Part) :
    ∀ f ∈ p.owner.allFields, p.kinds.lookup f.key = some f.kind := by
  cases p <;> decide

/-- What has a value is declared. -/
theorem mem_keys_of_mem_kinds (p : Part) : ∀ e ∈ p.kinds, e.1 ∈ p.owner.keys := by
  cases p <;> decide

end Part

end Settings

end IndexerSettings
