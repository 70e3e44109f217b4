import Mathlib.Algebra.GroupWithZero.Nat
import Mathlib.Data.List.Basic
import IndexerSettings.Schema.Section

/-!
# Sections within sections

The sections taken into a section may take in others themselves.  What holds of
a section as soon as it holds of the parts taken into it holds of every section
(`Section.partsInduction`).  All fields of a section are those that the sections
within it declare themselves, in the order in which these stand
(`Section.flatMap_fields_subsections`).
-/

namespace IndexerSettings.Section

theorem partsInduction {P : Section → Prop} (step : ∀ s, (∀ part ∈ s.composed, P part) → P s)
    (s : Section) : P s :=
  @Section.rec P (fun parts => ∀ part ∈ parts, P part) (fun _ _ _ _ ih => step _ ih) nofun
    (fun _ _ hpart hrest => List.forall_mem_cons.mpr ⟨hpart, hrest⟩) s

mutual

/-- A section and all that are taken into it, at any depth. -/
def subsections : Section → List Section
  | ⟨name, scope, fields, composed⟩ => ⟨name, scope, fields, composed⟩ :: subsectionsOf composed
termination_by structural s => s

def subsectionsOf : List Section → List Section
  | [] => []
  | s :: rest => subsections s ++ subsectionsOf rest
termination_by structural composed => composed

end

theorem subsectionsOf_eq (parts : List Section) :
    subsectionsOf parts = parts.flatMap subsections := by
  induction parts with
  | nil => rfl
  | cons part rest ih => rw [subsectionsOf, ih, List.flatMap_cons]

theorem subsections_eq (s : Section) :
    s.subsections = s :: s.composed.flatMap subsections := by
  obtain ⟨name, scope, fields, parts⟩ := s
  rw [subsections, subsectionsOf_eq]

theorem allFieldsOf_eq (parts : List Section) :
    allFieldsOf parts = parts.flatMap allFields := by
  induction parts with
  | nil => rfl
  | cons part rest ih => rw [allFieldsOf, ih, List.flatMap_cons]

theorem allFields_eq (s : Section) :
    s.allFields = s.fields ++ s.composed.flatMap allFields := by
  obtain ⟨name, scope, fields, parts⟩ := s
  rw [allFields, allFieldsOf_eq]

theorem flatMap_fields_subsections (s : Section) :
    s.subsections.flatMap fields = s.allFields := by
  induction s using partsInduction with
  | step s ih =>
      rw [subsections_eq, allFields_eq, List.flatMap_cons, List.flatMap_assoc]
      exact congrArg (s.fields ++ ·) (List.flatMap_congr ih)

theorem length_allFields (s : Section) :
    s.allFields.length = (s.subsections.map fun t => t.fields.length).sum := by
  rw [← flatMap_fields_subsections, List.length_flatMap]

end IndexerSettings.Section
