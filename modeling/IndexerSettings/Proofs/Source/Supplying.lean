import Mathlib.Logic.Relation
import IndexerSettings.Proofs.Json.Leaves
import IndexerSettings.Proofs.Source.OverriddenDrift

/-!
# Supplied keys are leaves

The keys that a source supplies are those of the leaves of its document, in
depth-first order and one for each leaf (`Source.Built.suppliedKeys_exact`).
The keys that were overridden add none.  An override makes a leaf of its field and
takes away what lies beneath it, and no field lies beneath another.  So a leaf that
stands where a field can stand is there for good, whatever is overridden later, by
whichever registry, and taken or refused (`Source.leaf_of_attempts`).

Two leaves may have the same key.  Where no name holds a dot they do not.
-/

namespace IndexerSettings

open Json (nil_notMem_leafPathsOf)

namespace Source

variable {s s' : Source} {scope name k : String}

/-! ## Keys of leaves -/

/-- Without dots in names, each leaf has a key of its own. -/
theorem nodup_leafKeys
    (hdots : ∀ path ∈ s.document.leafPaths, ∀ name ∈ path, '.' ∉ name.toList) :
    s.leafKeys.Nodup := by
  have hne : ∀ path ∈ s.document.leafPaths, path ≠ [] := by
    rintro path hpath rfl
    exact nil_notMem_leafPathsOf s.document.members hpath
  refine List.Nodup.map_on ?_ s.document.nodup_leafPaths
  intro path hpath path' hpath' heq
  exact intercalate_inj (hne path hpath) (hne path' hpath') (hdots path hpath)
    (hdots path' hpath') heq

/-! ## Attempts to override -/

/-- One source is what an override in place leaves of another, whether it is taken
or refused, and whichever registry it is looked up in. -/
inductive Attempt (s s' : Source) : Prop
  | taken {r : Registry} {assignment : String}
      (h : (enterOverride r assignment).run s.draft = .ok () s'.draft)
  | refused {r : Registry} {assignment : String} {e : LoadError}
      (h : (enterOverride r assignment).run s.draft = .error e s'.draft)

theorem draft_inj (h : s.draft = s'.draft) : s = s' := by
  obtain ⟨⟨members, _⟩, overridden⟩ := s
  obtain ⟨⟨members', _⟩, overridden'⟩ := s'
  obtain ⟨rfl, rfl⟩ := Draft.mk.inj h
  rfl

/-- What is refused changes nothing. -/
theorem Attempt.cases (h : s.Attempt s') :
    s' = s ∨ ∃ r assignment, s.override r assignment = .ok s' := by
  cases h with
  | @taken r assignment h =>
      rw [run_enterOverride] at h
      split at h
      · rename_i t ht
        have hdraft : t.draft = s'.draft := by injection h
        exact .inr ⟨r, assignment, draft_inj hdraft ▸ ht⟩
      · cases h
  | @refused r assignment e h =>
      rw [run_enterOverride] at h
      split at h
      · cases h
      · have hdraft : s.draft = s'.draft := by injection h
        exact .inl (draft_inj hdraft).symm

theorem attempt_of_taken {r : Registry} {assignment : String}
    (h : s.override r assignment = .ok s') : s.Attempt s' :=
  .taken (by rw [run_enterOverride, h])

theorem attempt_of_refused {r : Registry} {assignment : String} {e : LoadError}
    (h : s.override r assignment = .error e) : s.Attempt s :=
  .refused (by rw [run_enterOverride, h])

/-- A leaf of a section stays one. -/
theorem leaf_of_attempt (h : s.Attempt s') (hleaf : [scope, name] ∈ s.document.leafPaths) :
    [scope, name] ∈ s'.document.leafPaths := by
  rcases h.cases with rfl | ⟨r, assignment, hs'⟩
  · exact hleaf
  · obtain ⟨a, entry, value, htakes⟩ := takes_of_override hs'
    rw [(changedAt_of_override hs' htakes).mem_leafPaths_iff]
    by_cases hsame : [scope, name] = [entry.scope, entry.field.key]
    · exact .inl hsame
    · refine .inr ⟨hleaf, fun hunder => hsame ?_⟩
      exact (hunder.eq_of_length rfl).symm

theorem leaf_of_attempts (h : Relation.ReflTransGen Attempt s s')
    (hleaf : [scope, name] ∈ s.document.leafPaths) : [scope, name] ∈ s'.document.leafPaths := by
  induction h with
  | refl => exact hleaf
  | tail _ hlast ih => exact leaf_of_attempt hlast ih

/-! ## Sources as they come about -/

/-- A source that is empty or loaded, after any attempts to override something. -/
def Built (s : Source) : Prop :=
  ∃ s₀, (s₀ = .empty ∨ ∃ j, ofJson j = .ok s₀) ∧ Relation.ReflTransGen Attempt s₀ s

/-- Each key that was overridden is that of a leaf, in a section. -/
def OverriddenAtLeaves (s : Source) : Prop :=
  ∀ k ∈ s.overridden, ∃ scope name, flatKey scope name = k ∧ [scope, name] ∈ s.document.leafPaths

theorem overriddenAtLeaves_of_attempt (h : s.Attempt s') (hs : s.OverriddenAtLeaves) :
    s'.OverriddenAtLeaves := by
  intro k hk
  rcases h.cases with rfl | ⟨r, assignment, hs'⟩
  · exact hs k hk
  · obtain ⟨a, entry, value, htakes⟩ := takes_of_override hs'
    rcases (mem_overridden_override_iff hs' htakes).mp hk with hk | rfl
    · obtain ⟨scope, name, hkey, hleaf⟩ := hs k hk
      exact ⟨scope, name, hkey, leaf_of_attempt h hleaf⟩
    · refine ⟨entry.scope, entry.field.key, (Registry.of_field?_eq_some htakes.field).1.symm, ?_⟩
      rw [(changedAt_of_override hs' htakes).mem_leafPaths_iff]
      exact .inl rfl

theorem Built.overriddenAtLeaves (h : s.Built) : s.OverriddenAtLeaves := by
  obtain ⟨s₀, hstart, hattempts⟩ := h
  have hs₀ : s₀.overridden = [] := by
    rcases hstart with rfl | ⟨j, hj⟩
    · rfl
    · unfold ofJson at hj
      split at hj
      · obtain rfl := Except.ok.inj hj
        rfl
      · cases hj
  induction hattempts with
  | refl =>
      intro k hk
      rw [hs₀] at hk
      cases hk
  | tail _ hlast ih => exact overriddenAtLeaves_of_attempt hlast ih

theorem suppliedKeys_of_overriddenAtLeaves (h : s.OverriddenAtLeaves) :
    s.suppliedKeys = s.leafKeys := by
  have hnone : s.overridden.filter (fun k => k ∉ s.leafKeys) = [] := by
    rw [List.filter_eq_nil_iff]
    intro k hk
    obtain ⟨scope, name, rfl, hleaf⟩ := h k hk
    have hmem : flatKey scope name ∈ s.leafKeys := List.mem_map_of_mem hleaf
    simpa using hmem
  rw [suppliedKeys, hnone, List.append_nil]

/-- A source supplies the key of each leaf of its document, once for each and for
nothing else, in depth-first order.  What was overridden is among the leaves, and
stays there.  Without dots in names no key is supplied twice. -/
theorem Built.suppliedKeys_exact (h : s.Built) :
    s.suppliedKeys = s.document.leafPaths.map (".".intercalate ·)
    ∧ (∀ path, path ∈ s.document.leafPaths ↔
        ∃ j, s.document.toJson.Reaches path j ∧ j.IsLeaf)
    ∧ s.document.leafPaths.Pairwise (· < ·)
    ∧ (∀ k ∈ s.overridden, ∃ path, ".".intercalate path = k
        ∧ ∀ s', Relation.ReflTransGen Attempt s s' → path ∈ s'.document.leafPaths)
    ∧ ((∀ path ∈ s.document.leafPaths, ∀ name ∈ path, '.' ∉ name.toList) →
        s.suppliedKeys.Nodup) := by
  have hleaves := h.overriddenAtLeaves
  have hkeys := suppliedKeys_of_overriddenAtLeaves hleaves
  refine ⟨hkeys, fun path => s.document.mem_leafPaths_iff, s.document.pairwise_leafPaths, fun k hk => ?_,
    fun hdots => ?_⟩
  · obtain ⟨scope, name, rfl, hleaf⟩ := hleaves k hk
    exact ⟨[scope, name], intercalate_pair scope name, fun s' hs' => leaf_of_attempts hs' hleaf⟩
  · rw [hkeys]
    exact nodup_leafKeys hdots

/-- An object that is written over, a section that is no object, and an empty one
that gets a field from another registry. -/
theorem Built.suppliedKeys_exact_other :
    let j : Json := .object [("log", .array []), ("base", .object [
      ("empty", .object []), ("api", .object [("x", .ofString "y")])]), ("a", .object [])]
    ∃ s₀ s₁ s₂ other, ofJson j = .ok s₀ ∧ s₀.override .indexer "base.api=y" = .ok s₁
      ∧ s₁.override .indexer "log.level=info" = .error (.sectionNotObject "log")
      ∧ Registry.ofSections [⟨"other", some "a", [⟨"b", .int, ""⟩], []⟩] = .ok other
      ∧ s₁.override other "a.b=1" = .ok s₂ ∧ s₂.Built
      ∧ s₂.suppliedKeys = ["a.b", "base.api", "log"] ∧ s₂.suppliedKeys.Nodup := by
  intro j
  let s₀ : Source := ⟨.ofMembers [("a", .object []), ("base", .object [
    ("api", .object [("x", .ofString "y")]), ("empty", .object [])]), ("log", .array [])], []⟩
  let s₁ : Source := ⟨.ofMembers [("a", .object []), ("base", .object [
    ("api", .ofString "y"), ("empty", .object [])]), ("log", .array [])], ["base.api"]⟩
  let s₂ : Source := ⟨.ofMembers [("a", .object [("b", .ofCount 1)]), ("base", .object [
    ("api", .ofString "y"), ("empty", .object [])]), ("log", .array [])], ["base.api", "a.b"]⟩
  obtain ⟨other, hother, hs₂⟩ : ∃ other,
      Registry.ofSections [⟨"other", some "a", [⟨"b", .int, ""⟩], []⟩] = .ok other
        ∧ s₁.override other "a.b=1" = .ok s₂ := ⟨_, rfl, rfl⟩
  have hs₀ : ofJson j = .ok s₀ := rfl
  have hs₁ : s₀.override .indexer "base.api=y" = .ok s₁ := rfl
  have hlog : s₁.override .indexer "log.level=info" = .error (.sectionNotObject "log") := rfl
  have hbuilt : s₂.Built := ⟨s₀, .inr ⟨j, hs₀⟩, .tail (.tail (.single (attempt_of_taken hs₁))
    (attempt_of_refused hlog)) (attempt_of_taken hs₂)⟩
  obtain ⟨hkeys, -, -, -, hnodup⟩ := hbuilt.suppliedKeys_exact
  exact ⟨s₀, s₁, s₂, other, hs₀, hs₁, hlog, hother, hs₂, hbuilt, hkeys, hnodup (by decide)⟩

end Source

end IndexerSettings
