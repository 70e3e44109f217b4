import Mathlib.Logic.Relation
import IndexerSettings.Proofs.Schema.Registering
import IndexerSettings.Proofs.Schema.Subsections

/-!
# Taking sections in

A section gives its own scope to everything that is taken into it, however deep
it stands there.  What the sections taken in are called and where they would
stand by themselves is then of no account: where any of them gets another name
or scope (`Section.Relabels`) the fields remain as they are, and with them every
answer of the section, the error that it is refused with included
(`Section.composition_exact`).
-/

namespace IndexerSettings

namespace Section

variable {s s' : Section}

/-- One section that is taken in, at any depth, gets another name and scope. -/
inductive Relabels : Section → Section → Prop
  | part {s : Section} (before : List Section) (part : Section) (after : List Section)
      (name : String) (scope : Option String) (hcomposed : s.composed = before ++ part :: after) :
      Relabels s { s with composed := before ++ { part with name, scope } :: after }
  | within {s part part' : Section} (before after : List Section)
      (hcomposed : s.composed = before ++ part :: after) (hpart : Relabels part part') :
      Relabels s { s with composed := before ++ part' :: after }

/-- Sections that differ at most in how their fields are put together. -/
structure SameOutside (s s' : Section) : Prop where
  name : s'.name = s.name
  scope : s'.scope = s.scope
  allFields : s'.allFields = s.allFields

/-! ## What other names change -/

theorem allFields_relabelled (s : Section) (name : String) (scope : Option String) :
    { s with name, scope }.allFields = s.allFields := by
  rw [allFields_eq, allFields_eq s]

theorem allFields_replaced {part part' : Section} {before after : List Section}
    (hcomposed : s.composed = before ++ part :: after)
    (hpart : part'.allFields = part.allFields) :
    { s with composed := before ++ part' :: after }.allFields = s.allFields := by
  rw [allFields_eq, allFields_eq s, hcomposed, List.flatMap_append, List.flatMap_append,
    List.flatMap_cons, List.flatMap_cons, hpart]

theorem Relabels.sameOutside (h : Relabels s s') : SameOutside s s' := by
  induction h with
  | part before part after name scope hcomposed =>
      exact ⟨rfl, rfl, allFields_replaced hcomposed (allFields_relabelled _ name scope)⟩
  | within before after hcomposed _ ih => exact ⟨rfl, rfl, allFields_replaced hcomposed ih.allFields⟩

theorem sameOutside_of_relabels (h : Relation.ReflTransGen Relabels s s') : SameOutside s s' := by
  induction h with
  | refl => exact ⟨rfl, rfl, rfl⟩
  | tail _ hlast ih =>
      have hstep := hlast.sameOutside
      exact ⟨hstep.name.trans ih.name, hstep.scope.trans ih.scope,
        hstep.allFields.trans ih.allFields⟩

namespace SameOutside

theorem keys_eq (h : SameOutside s s') : s'.keys = s.keys :=
  congrArg (List.map Field.key) h.allFields

theorem keysUnder_eq (h : SameOutside s s') (scope : String) :
    s'.keysUnder scope = s.keysUnder scope :=
  congrArg (List.map (flatKey scope)) h.keys_eq

theorem field?_eq (h : SameOutside s s') (key : String) : s'.field? key = s.field? key := by
  rw [field?, field?, h.allFields]

theorem checkKeys_eq (h : SameOutside s s') : s'.checkKeys = s.checkKeys := by
  rw [checkKeys, checkKeys, repeatedKey?, repeatedKey?, h.keys_eq, h.name]

end SameOutside

/-! ## What a section is as a whole -/

theorem keysUnder_eq (s : Section) (scope : String) :
    s.keysUnder scope
      = s.fields.map (fun f => flatKey scope f.key)
        ++ s.composed.flatMap fun part => part.keysUnder scope := by
  simp only [keysUnder, keys, List.map_map, allFields_eq s, List.map_append, List.map_flatMap]
  rfl

end Section

namespace Registry

open Section (SameOutside)

variable {s s' : Section} {entries after : Entries} {outcome : Except SchemaError Unit}

/-- What is registered, but for how the sections are put together. -/
def outline (entries : Entries) : List (String × String × List Field) :=
  entries.map fun e => (e.1, e.2.name, e.2.allFields)

/-- A registry takes or refuses such sections alike, and for the same reason. -/
theorem Registers.sameOutside (hs : SameOutside s s') (h : Registers entries s outcome after) :
    ∃ after', Registers entries s' outcome after' ∧ outline after' = outline after := by
  cases h with
  | missingScope hscope =>
      rw [← hs.name]
      exact ⟨entries, .missingScope (hs.scope.trans hscope), rfl⟩
  | duplicateScope hscope htaken =>
      exact ⟨entries, .duplicateScope (hs.scope.trans hscope) htaken, rfl⟩
  | duplicateKey hscope hfree hkey =>
      rw [← hs.name]
      exact ⟨entries, .duplicateKey (hs.scope.trans hscope) hfree (hs.keys_eq ▸ hkey), rfl⟩
  | registered hscope hfree hkeys =>
      refine ⟨_, .registered (hs.scope.trans hscope) hfree (hs.keys_eq ▸ hkeys), ?_⟩
      simp only [outline, List.map_append, List.map_singleton, hs.name, hs.allFields]

theorem step_sameOutside (hs : SameOutside s s') (r : Registry) :
    (r.step s').1 = (r.step s).1
      ∧ outline (r.step s').2.entries = outline (r.step s).2.entries := by
  obtain ⟨after, hregisters, houtline⟩ := (registers_step r s).sameOutside hs
  obtain ⟨houtcome, rfl⟩ := (registers_step r s').unique r.distinct hregisters
  exact ⟨houtcome, houtline⟩

end Registry

namespace Section

open Registry (outline)

/-- The flat keys of a section are those of its own fields and then those of its
parts one after the other, all under its scope, and they are as many as the fields
that are declared in it.  They do not depend on what the sections taken in are
called or on their scopes; nor do the fields, what is found among them, whether a
key is repeated, or what registering the section comes to in any registry. -/
theorem composition_exact (s : Section) :
    (∀ scope, s.keysUnder scope
      = s.fields.map (fun f => flatKey scope f.key)
        ++ s.composed.flatMap fun part => part.keysUnder scope)
    ∧ (∀ scope, (s.keysUnder scope).length
      = (s.subsections.map fun t => t.fields.length).sum)
    ∧ ∀ s', Relation.ReflTransGen Relabels s s' →
      s'.allFields = s.allFields
      ∧ (∀ scope, s'.keysUnder scope = s.keysUnder scope)
      ∧ (∀ key, s'.field? key = s.field? key)
      ∧ s'.checkKeys = s.checkKeys
      ∧ ∀ r : Registry, (r.step s').1 = (r.step s).1
        ∧ outline (r.step s').2.entries = outline (r.step s).2.entries := by
  refine ⟨keysUnder_eq s, fun scope => ?_, fun s' h => ?_⟩
  · rw [keysUnder, keys, List.length_map, List.length_map, length_allFields]
  · have hs := sameOutside_of_relabels h
    exact ⟨hs.allFields, hs.keysUnder_eq, hs.field?_eq, hs.checkKeys_eq,
      Registry.step_sameOutside hs⟩

theorem composition_exact_deep :
    let deep : Field := ⟨"deep", .bool, "innermost"⟩
    let leaf : Section := ⟨"leaf", some "leaf", [deep], []⟩
    let leaf' : Section := ⟨"top", none, [deep], []⟩
    let s : Section := ⟨"top", some "top", [deep], [⟨"mid", none, [], [leaf]⟩]⟩
    let s' : Section := ⟨"top", some "top", [deep], [⟨"other", none, [], [leaf']⟩]⟩
    Relation.ReflTransGen Relabels s s'
      ∧ s'.keysUnder "x" = ["x.deep", "x.deep"]
      ∧ s'.checkKeys = .error (.duplicateKey "top" "deep")
      ∧ (Registry.empty.step s').1 = .error (.duplicateKey "top" "deep") := by
  intro deep leaf leaf' s s'
  have hleaf : Relabels s ⟨"top", some "top", [deep], [⟨"mid", none, [], [leaf']⟩]⟩ :=
    .within [] [] rfl (.part [] leaf [] "top" none rfl)
  have hmid : Relabels ⟨"top", some "top", [deep], [⟨"mid", none, [], [leaf']⟩]⟩ s' :=
    .part [] ⟨"mid", none, [], [leaf']⟩ [] "other" none rfl
  have hrelabels : Relation.ReflTransGen Relabels s s' := .tail (.single hleaf) hmid
  obtain ⟨-, hkeys, -, hcheck, hstep⟩ := (composition_exact s).2.2 s' hrelabels
  exact ⟨hrelabels, (hkeys "x").trans (by decide), hcheck.trans rfl, (hstep .empty).1.trans rfl⟩

end Section

end IndexerSettings
