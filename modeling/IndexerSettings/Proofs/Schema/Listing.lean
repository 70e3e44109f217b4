import Mathlib.Data.List.Forall2
import IndexerSettings.Proofs.Schema.FlatKeys
import IndexerSettings.Schema.Listing

/-!
# What a listing shows

A listing goes through a section in its own way: the fields of the section first,
and then part by part what each part flattens to.  It comes to all fields in their
order (`Section.forall₂_rows`), so that a listing of a registry shows each field of
the sections asked for once, and its keys are those that the registry itself gives
for these sections (`Registry.rows_exact`).
-/

namespace IndexerSettings

namespace KeyRow

/-- A row is that of a field under a scope. -/
structure Shows (row : KeyRow) (scope : String) (f : Field) : Prop where
  key : row.key = flatKey scope f.key
  kind : row.kind = f.kind
  help : row.help = f.help

theorem forall₂_ofFields (scope origin : String) (fields : List Field) :
    List.Forall₂ (fun row f => Shows row scope f) (ofFields scope origin fields) fields := by
  rw [ofFields, List.forall₂_map_left_iff, List.forall₂_same]
  exact fun f _ => ⟨rfl, rfl, rfl⟩

end KeyRow

namespace Section

variable {scope : String} {s : Section} {parts : List Section}

/-- The rows of the parts, each flattened, are those of all their fields. -/
theorem forall₂_partRows :
    List.Forall₂ (fun row f => KeyRow.Shows row scope f)
      (parts.flatMap fun part => KeyRow.ofFields scope part.name part.allFields)
      (allFieldsOf parts) := by
  induction parts with
  | nil => exact .nil
  | cons part rest ih =>
      rw [List.flatMap_cons, allFieldsOf]
      exact List.rel_append (KeyRow.forall₂_ofFields ..) ih

theorem forall₂_rows (s : Section) (scope : String) :
    List.Forall₂ (fun row f => KeyRow.Shows row scope f) (s.rows scope) s.allFields := by
  obtain ⟨name, scope', fields, parts⟩ := s
  rw [rows, allFields]
  exact List.rel_append (KeyRow.forall₂_ofFields ..) forall₂_partRows

theorem map_key_rows (s : Section) (scope : String) :
    (s.rows scope).map KeyRow.key = s.keysUnder scope := by
  rw [keysUnder, keys, List.map_map, ← List.forall₂_eq_eq_eq, List.forall₂_map_left_iff,
    List.forall₂_map_right_iff]
  exact (forall₂_rows s scope).imp fun _ _ h => h.key

end Section

namespace Registry

variable {only : Option String}

/-- The fields of the sections that are asked for. -/
def listed (r : Registry) (only : Option String) : List FieldEntry :=
  r.declared.filter fun l => only = none ∨ only = some l.scope

theorem rows_eq (r : Registry) (only : Option String) :
    r.rows only = (r.entries.filter fun e => only = none ∨ only = some e.1).flatMap
      fun e => e.2.rows e.1 := by
  rw [rows]
  refine congrArg (List.flatMap _) (List.filter_congr fun e _ => ?_)
  cases only with
  | none => rfl
  | some wanted =>
      show (wanted == e.1) = _
      rw [Bool.eq_iff_iff, beq_iff_eq, decide_eq_true_eq]
      exact ⟨fun h => .inr (congrArg some h), fun h => Option.some.inj (h.resolve_left nofun)⟩

/-- The fields of a section are all listed or none of them. -/
theorem forall₂_rows_listed (r : Registry) (only : Option String) :
    List.Forall₂ (fun row l => KeyRow.Shows row l.scope l.field) (r.rows only)
      (r.listed only) := by
  rw [rows_eq, listed, declared]
  induction r.entries with
  | nil => exact .nil
  | cons e rest ih =>
      rw [List.flatMap_cons, List.filter_append, List.filter_map]
      simp only [Function.comp_def]
      by_cases hasked : only = none ∨ only = some e.1
      · rw [List.filter_cons, if_pos (decide_eq_true hasked), List.flatMap_cons,
          List.filter_eq_self.mpr fun f _ => decide_eq_true hasked]
        refine List.rel_append ?_ ih
        rw [List.forall₂_map_right_iff]
        exact Section.forall₂_rows ..
      · rw [List.filter_cons, if_neg fun h => hasked (of_decide_eq_true h),
          List.filter_eq_nil_iff.mpr fun f _ h => hasked (of_decide_eq_true h)]
        exact ih

theorem map_key_rows (r : Registry) (only : Option String) :
    (r.rows only).map KeyRow.key
      = (r.scopes.filter fun scope => only = none ∨ only = some scope).flatMap r.sectionKeys := by
  rw [rows_eq, scopes, List.filter_map, List.flatMap_map, List.map_flatMap]
  refine List.flatMap_congr fun e he => ?_
  rw [Section.map_key_rows, sectionKeys, section?_of_mem (List.mem_of_mem_filter he)]
  rfl

theorem mem_listed {r : Registry} {l : FieldEntry} :
    l ∈ r.listed only ↔ (l.scope, l.owner) ∈ r.entries ∧ l.field ∈ l.owner.allFields
      ∧ (only = none ∨ only = some l.scope) := by
  rw [listed, List.mem_filter, mem_declared, decide_eq_true_eq, and_assoc]

/-- A listing has the keys of the sections asked for, in the order in which these
were registered.  Its rows are those of the fields of these sections, of each one
exactly once, and each says of its field what is found for the key in the section. -/
theorem rows_exact (r : Registry) (only : Option String) :
    (r.rows only).map KeyRow.key
      = (r.scopes.filter fun scope => only = none ∨ only = some scope).flatMap r.sectionKeys
    ∧ ∃ fields : List FieldEntry, fields.Nodup
      ∧ (∀ l, l ∈ fields ↔ (l.scope, l.owner) ∈ r.entries ∧ l.field ∈ l.owner.allFields
        ∧ (only = none ∨ only = some l.scope))
      ∧ List.Forall₂ (fun row l => row.key = flatKey l.scope l.field.key
        ∧ l.owner.field? l.field.key = some l.field
        ∧ row.kind = l.field.kind ∧ row.help = l.field.help) (r.rows only) fields := by
  refine ⟨map_key_rows r only, r.listed only, r.nodup_declared.filter _, fun l => mem_listed, ?_⟩
  have hfound : ∀ l ∈ r.listed only, l.owner.field? l.field.key = some l.field := by
    intro l hl
    obtain ⟨hentry, hfield, -⟩ := mem_listed.mp hl
    exact Section.field?_of_mem (r.uniqueKeys _ hentry) hfield
  have hrows := forall₂_rows_listed r only
  rw [List.forall₂_iff_get] at hrows ⊢
  refine ⟨hrows.1, fun i hi hi' => ?_⟩
  obtain ⟨hkey, hkind, hhelp⟩ := hrows.2 i hi hi'
  exact ⟨hkey, hfound _ (List.getElem_mem hi'), hkind, hhelp⟩

end Registry

end IndexerSettings
