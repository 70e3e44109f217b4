import IndexerSettings.Proofs.Json.Leaves
import IndexerSettings.Proofs.Settings.Documents

/-!
# Leaves that are ignored

Settings are read from the members that have the names of sections, and each
section from the members that have the keys of its fields.  A leaf anywhere
else can be taken out of a document without a trace.  Where it lies below a
field, the field holds an object and is refused, before and after, in the same
words: a message names an object only as such.
-/

namespace IndexerSettings

open Json (Member membersWithout foldlM_membersWithout)
open Outcome (mapError_map mapError_foldlM mapError_eq_of_map foldlM_congr)

/-! ## Sections -/

namespace FieldValues

/-- A member that no field has the name of is passed over. -/
theorem assign_of_notMem {fields : List Field} {m : Member}
    (h : m.1 ∉ fields.map Field.key) (vals : FieldValues) :
    assign fields vals m = .ok vals := by
  rw [assign, find?_of_notMem_keys h]

/-- An object under the key of a field is refused, whatever its members are. -/
theorem message_assign_object (fields : List Field) (vals : FieldValues) (name : String)
    (members members' : List Member) :
    (assign fields vals (name, .object members)).mapError Mismatch.message
      = (assign fields vals (name, .object members')).mapError Mismatch.message := by
  unfold assign
  cases fields.find? (·.key == name) with
  | none => rfl
  | some f =>
      obtain ⟨key, kind, help⟩ := f
      cases kind <;> rfl

end FieldValues

namespace Settings

/-- A section without some leaves that are no fields of it. -/
theorem Part.message_ofJson_without (p : Part) {gone : List String → Bool}
    {members : List Member}
    (h : ∀ m ∈ members, m.2.IsLeaf → gone [m.1] = true → m.1 ∉ p.owner.keys) :
    (p.ofJson (.object (membersWithout gone members))).mapError Mismatch.message
      = (p.ofJson (.object members)).mapError Mismatch.message := by
  refine mapError_eq_of_map p.values_injective ?_
  rw [map_values_ofJson, map_values_ofJson, mapError_foldlM, mapError_foldlM]
  refine foldlM_congr (fun fields hfields vals => ?_) _
  rw [mapError_foldlM, mapError_foldlM]
  refine foldlM_membersWithout (fun m hm hleaf hgone vals => ?_)
    (fun m hm below hbelow vals => ?_) vals
  · have hkey : m.1 ∉ fields.map Field.key := by
      intro hmem
      refine h m hm hleaf hgone ?_
      rw [Section.keys, ← flatten_phases]
      obtain ⟨f, hf, hfkey⟩ := List.mem_map.mp hmem
      exact List.mem_map.mpr ⟨f, List.mem_flatten.mpr ⟨fields, hfields, hf⟩, hfkey⟩
    rw [FieldValues.assign_of_notMem hkey]
    rfl
  · obtain ⟨name, j⟩ := m
    subst hbelow
    exact FieldValues.message_assign_object fields vals name _ _

/-! ## Documents -/

/-- A document without some leaves that are neither sections nor fields of
one. -/
theorem message_ofDocument_without {d : Document} {gone : List String → Bool}
    (hsections : ∀ m ∈ d.members, m.2.IsLeaf → gone [m.1] = true → ∀ p : Part, p.scope ≠ m.1)
    (hfields : ∀ m ∈ d.members, ∀ fields, m.2 = .object fields → ∀ n ∈ fields, n.2.IsLeaf →
      gone [m.1, n.1] = true → ∀ p : Part, p.scope = m.1 → n.1 ∉ p.owner.keys) :
    (ofDocument (d.without gone)).mapError Mismatch.message
      = (ofDocument d).mapError Mismatch.message := by
  show ((membersWithout gone d.members).foldlM (Binding.assign bindings) {}).mapError
      Mismatch.message = (d.members.foldlM (Binding.assign bindings) {}).mapError _
  rw [mapError_foldlM, mapError_foldlM]
  refine foldlM_membersWithout (fun m hm hleaf hgone s => ?_)
    (fun m hm below hbelow s => ?_) _
  · rcases Part.assign_bindings s m with ⟨p, hp, -⟩ | ⟨-, hskip⟩
    · exact absurd hp.symm (hsections m hm hleaf hgone p)
    · rw [hskip]
      rfl
  · obtain ⟨name, j⟩ := m
    subst hbelow
    have hleft := Part.assign_bindings s
      (name, .object (membersWithout (fun path => gone (name :: path)) below))
    rcases Part.assign_bindings s (name, .object below) with ⟨p, hp, hassign⟩ | ⟨hne, hskip⟩
    · rcases hleft with ⟨q, hq, hassign'⟩ | ⟨hne, -⟩
      · obtain rfl := Part.scope_injective (hp.symm.trans hq)
        rw [hassign, hassign', mapError_map, mapError_map]
        congr 1
        exact p.message_ofJson_without fun n hn hleaf hgone =>
          hfields _ hm below rfl n hn hleaf hgone p hp.symm
      · exact absurd hp.symm (hne p)
    · rcases hleft with ⟨q, hq, -⟩ | ⟨-, hskip'⟩
      · exact absurd hq.symm (hne q)
      · rw [hskip, hskip']

end Settings

end IndexerSettings
