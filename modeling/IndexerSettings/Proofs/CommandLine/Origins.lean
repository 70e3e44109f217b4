import IndexerSettings.Proofs.CommandLine.Stages
import IndexerSettings.Proofs.Schema.Listing
import IndexerSettings.Proofs.Schema.Subsections

/-!
# Whom a listing names

A row of a listing names a section beside the field.  For a field of the registered
section itself that is the section, and for a field of a part taken into it the part,
even where the field is declared deeper within that part
(`Registry.rows_eq_map_placements`).  So the rows name the sections that declare their
fields exactly if every part is called like all within it that declare any
(`Registry.namesDeclarers_iff`).  That holds where the parts take in nothing
themselves, as it is with the sections of the indexer, which are all that the command
lists (`Session.listKeys_namesDeclarers`).
-/

namespace IndexerSettings

/-- A field under the scope of a registered section, with the section that declares it:
the registered one or one that is taken into it, at any depth. -/
structure Declaration where
  scope : String
  declarer : Section
  field : Field

/-- A declaration, with the section that it is listed for: the registered one for its own
fields, and else the part of it in which the declaration stands. -/
structure Placement extends Declaration where
  listed : Section

def Placement.row (p : Placement) : KeyRow :=
  ⟨flatKey p.scope p.field.key, p.field.kind, p.listed.name, p.field.help⟩

namespace Section

/-- The declarations of a section and of all that it takes in. -/
def declarations (s : Section) (scope : String) : List Declaration :=
  s.subsections.flatMap fun t => t.fields.map fun f => ⟨scope, t, f⟩

/-- The same, with the sections that they are listed for. -/
def placements (s : Section) (scope : String) : List Placement :=
  s.fields.map (fun f => ⟨⟨scope, s, f⟩, s⟩)
    ++ s.composed.flatMap fun part => (part.declarations scope).map fun d => ⟨d, part⟩

/-- Each part taken in is called like all sections within it that declare any field. -/
def OneNamePerPart (s : Section) : Prop :=
  ∀ part ∈ s.composed, ∀ t ∈ part.subsections, t.fields ≠ [] → t.name = part.name

variable {s : Section} {scope : String}

theorem declarations_eq (s : Section) (scope : String) :
    s.declarations scope
      = s.fields.map (fun f => ⟨scope, s, f⟩)
        ++ s.composed.flatMap fun part => part.declarations scope := by
  rw [declarations, subsections_eq, List.flatMap_cons, List.flatMap_assoc]
  rfl

theorem map_field_declarations (s : Section) (scope : String) :
    (s.declarations scope).map Declaration.field = s.allFields := by
  rw [declarations, List.map_flatMap, ← flatMap_fields_subsections]
  refine List.flatMap_congr fun t _ => ?_
  rw [List.map_map]
  exact List.map_id t.fields

theorem map_toDeclaration_placements (s : Section) (scope : String) :
    (s.placements scope).map Placement.toDeclaration = s.declarations scope := by
  rw [placements, declarations_eq, List.map_append, List.map_map, List.map_flatMap]
  refine congrArg (_ ++ ·) (List.flatMap_congr fun part _ => ?_)
  rw [List.map_map]
  exact List.map_id _

theorem map_row_placements (s : Section) (scope : String) :
    (s.placements scope).map Placement.row = s.rows scope := by
  rw [placements, rows, List.map_append, List.map_map, List.map_flatMap]
  refine congrArg (_ ++ ·) (List.flatMap_congr fun part _ => ?_)
  rw [KeyRow.ofFields, ← map_field_declarations part scope, List.map_map, List.map_map]
  refine List.map_congr_left fun d hd => ?_
  obtain ⟨t, -, hfield⟩ := List.mem_flatMap.mp hd
  obtain ⟨f, -, rfl⟩ := List.mem_map.mp hfield
  rfl

/-- Own fields are listed for the section that declares them, so it is on the parts
whether all fields are. -/
theorem forall_placements_iff (scope : String) :
    (∀ p ∈ s.placements scope, p.listed.name = p.declarer.name) ↔ s.OneNamePerPart := by
  constructor
  · intro h part hpart t ht hfields
    obtain ⟨f, hf⟩ := List.exists_mem_of_ne_nil _ hfields
    refine (h ⟨⟨scope, t, f⟩, part⟩ (List.mem_append_right _ ?_)).symm
    refine List.mem_flatMap.mpr ⟨part, hpart, List.mem_map.mpr ⟨_, ?_, rfl⟩⟩
    exact List.mem_flatMap.mpr ⟨t, ht, List.mem_map.mpr ⟨f, hf, rfl⟩⟩
  · intro h p hp
    rcases List.mem_append.mp hp with hp | hp
    · obtain ⟨f, -, rfl⟩ := List.mem_map.mp hp
      rfl
    · obtain ⟨part, hpart, hp⟩ := List.mem_flatMap.mp hp
      obtain ⟨d, hd, rfl⟩ := List.mem_map.mp hp
      obtain ⟨t, ht, hd⟩ := List.mem_flatMap.mp hd
      obtain ⟨f, hf, rfl⟩ := List.mem_map.mp hd
      exact (h part hpart t ht (List.ne_nil_of_mem hf)).symm

end Section

namespace Registry

variable {r : Registry} {only : Option String}

/-- The declarations in the sections that are asked for. -/
def declarations (r : Registry) (only : Option String) : List Declaration :=
  (r.entries.filter fun e => only = none ∨ only = some e.1).flatMap
    fun e => e.2.declarations e.1

def placements (r : Registry) (only : Option String) : List Placement :=
  (r.entries.filter fun e => only = none ∨ only = some e.1).flatMap
    fun e => e.2.placements e.1

/-- Each row names the section that declares its field. -/
def NamesDeclarers (r : Registry) (only : Option String) : Prop :=
  List.Forall₂ (fun row d => row.Shows d.scope d.field ∧ row.origin = d.declarer.name)
    (r.rows only) (r.declarations only)

theorem rows_eq_map_placements (r : Registry) (only : Option String) :
    r.rows only = (r.placements only).map Placement.row := by
  rw [rows_eq, placements, List.map_flatMap]
  exact List.flatMap_congr fun e _ => (Section.map_row_placements ..).symm

theorem declarations_eq_map_placements (r : Registry) (only : Option String) :
    r.declarations only = (r.placements only).map Placement.toDeclaration := by
  rw [declarations, placements, List.map_flatMap]
  exact List.flatMap_congr fun e _ => (Section.map_toDeclaration_placements ..).symm

theorem forall_placements_iff :
    (∀ p ∈ r.placements only, p.listed.name = p.declarer.name) ↔
      ∀ e ∈ r.entries, only = none ∨ only = some e.1 → e.2.OneNamePerPart := by
  constructor
  · intro h e he hasked
    refine (Section.forall_placements_iff e.1).mp fun p hp => h p ?_
    exact List.mem_flatMap.mpr ⟨e, List.mem_filter.mpr ⟨he, decide_eq_true hasked⟩, hp⟩
  · intro h p hp
    obtain ⟨e, he, hp⟩ := List.mem_flatMap.mp hp
    obtain ⟨he, hasked⟩ := List.mem_filter.mp he
    exact (Section.forall_placements_iff e.1).mpr (h e he (of_decide_eq_true hasked)) p hp

theorem namesDeclarers_iff :
    r.NamesDeclarers only ↔
      ∀ e ∈ r.entries, only = none ∨ only = some e.1 → e.2.OneNamePerPart := by
  rw [NamesDeclarers, rows_eq_map_placements, declarations_eq_map_placements,
    List.forall₂_map_left_iff, List.forall₂_map_right_iff, List.forall₂_same,
    ← forall_placements_iff]
  exact forall₂_congr fun p _ => and_iff_right ⟨rfl, rfl, rfl⟩

/-- A field that is declared in a part of a part is listed for the outer of the two. -/
example :
    let leaf : Section := ⟨"leaf", some "leaf", [⟨"deep", .bool, "innermost"⟩], []⟩
    let mid : Section := ⟨"mid", none, [⟨"mid", .int, "middle"⟩], [leaf]⟩
    ∃ r, ofSections [⟨"top", some "top", [], [mid]⟩] = .ok r
      ∧ r.rows none = [⟨"top.mid", .int, "mid", "middle"⟩, ⟨"top.deep", .bool, "mid", "innermost"⟩] :=
  ⟨_, rfl, rfl⟩

/-- The sections that the indexer takes in take in none. -/
theorem indexer_nameDeclarers (only : Option String) : indexer.NamesDeclarers only := by
  rw [namesDeclarers_iff]
  have hparts : ∀ e ∈ indexer.entries, ∀ part ∈ e.2.composed, ∀ t ∈ part.subsections,
      t.name = part.name := by decide
  exact fun e he _ part hpart t ht _ => hparts e he part hpart t ht

end Registry

namespace Session

variable {scope : Option String} {rows : List KeyRow}

theorem rows_of_listKeys (h : (listKeys scope).result = .ok rows) :
    rows = Registry.indexer.rows scope := by
  cases scope with
  | none => exact (Except.ok.inj h).symm
  | some s =>
      rw [listKeys, result_bind] at h
      change (if (Registry.indexer.section? s).isNone then fail _ else done _).result = _ at h
      split at h
      · cases h
      · exact (Except.ok.inj h).symm

/-- What the command lists names with each field the section that declares it. -/
theorem listKeys_namesDeclarers (h : (listKeys scope).result = .ok rows) :
    List.Forall₂ (fun row d => row.Shows d.scope d.field ∧ row.origin = d.declarer.name) rows
      (Registry.indexer.declarations scope) := by
  rw [rows_of_listKeys h]
  exact Registry.indexer_nameDeclarers scope

end Session

end IndexerSettings
