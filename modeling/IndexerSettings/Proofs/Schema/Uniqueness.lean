import Mathlib.Data.List.Perm.Basic
import IndexerSettings.Proofs.Schema.Fields
import IndexerSettings.Proofs.Schema.Subsections

/-!
# Keys that are declared once

The check for repeated keys goes through all fields of a section with the keys
that it has seen, and ends at the first place whose key stands in an earlier one
(`isFirstRepeated_iff_repeatsAt`).  Where it finds none a key has one field among
those of the whole section, and no order in which these are gone through gives
another (`Section.checkKeys_exact`).
-/

namespace IndexerSettings

/-! ## Places of a list -/

/-- The name at a place stands in an earlier one as well. -/
def RepeatsAt (names : List String) (i : Nat) : Prop :=
  i < names.length ∧ ∃ j < i, names[j]? = names[i]?

instance (names : List String) (i : Nat) : Decidable (RepeatsAt names i) :=
  inferInstanceAs (Decidable (_ ∧ _))

section

variable {names : List String} {key : String} {i n : Nat}

theorem nodup_iff_not_repeatsAt : names.Nodup ↔ ∀ i, ¬ RepeatsAt names i := by
  rw [List.nodup_iff_getElem?_ne_getElem?]
  constructor
  · rintro h i ⟨hi, j, hj, heq⟩
    exact h j i hj hi heq
  · intro h j i hj hi heq
    exact h i ⟨hi, j, hj, heq⟩

theorem repeatsAt_take (hi : i < n) : RepeatsAt (names.take n) i ↔ RepeatsAt names i := by
  have hlength : i < (names.take n).length ↔ i < names.length := by
    rw [List.length_take]
    omega
  rw [RepeatsAt, RepeatsAt, hlength, List.getElem?_take_of_lt hi]
  refine and_congr_right fun _ => exists_congr fun j => and_congr_right fun hj => ?_
  rw [List.getElem?_take_of_lt (hj.trans hi)]

/-- Names up to the first repetition are those before the first place with a name
that stands in an earlier one. -/
theorem isFirstRepeated_iff_repeatsAt :
    Section.IsFirstRepeated names key ↔
      ∃ i, names[i]? = some key ∧ RepeatsAt names i ∧ ∀ j < i, ¬ RepeatsAt names j := by
  constructor
  · rintro ⟨before, after, rfl, hnd, hkey⟩
    obtain ⟨j, hjkey⟩ := List.getElem?_of_mem hkey
    have hj : j < before.length := (List.getElem?_eq_some_iff.mp hjkey).1
    have hplace : (before ++ key :: after)[before.length]? = some key := by
      rw [List.getElem?_append_right (Nat.le_refl _), Nat.sub_self, List.getElem?_cons_zero]
    refine ⟨before.length, hplace, ⟨by simp, j, hj, ?_⟩, fun i hi hrepeats => ?_⟩
    · rw [hplace, List.getElem?_append_left hj, hjkey]
    · rw [← repeatsAt_take hi, List.take_left] at hrepeats
      exact nodup_iff_not_repeatsAt.mp hnd i hrepeats
  · rintro ⟨i, hkey, ⟨hi, j, hj, heq⟩, hfirst⟩
    refine ⟨names.take i, names.drop (i + 1), ?_, nodup_iff_not_repeatsAt.mpr ?_, ?_⟩
    · rw [← (List.getElem?_eq_some_iff.mp hkey).2, ← List.drop_eq_getElem_cons hi,
        List.take_append_drop]
    · intro k hk
      have hki : k < i := hk.1.trans_le (List.length_take_le ..)
      exact hfirst k hki ((repeatsAt_take hki).mp hk)
    · refine List.mem_of_getElem? (i := j) ?_
      rw [List.getElem?_take_of_lt hj, heq, hkey]

end

/-! ## Elements by their keys -/

section

variable {α : Type} {key : α → String} {l l' : List α} {name : String} {a : α}

/-- Where no two elements have the same key, what is found by one is all there is. -/
theorem find?_eq_some_iff_filter (hnd : (l.map key).Nodup) :
    l.find? (key · == name) = some a ↔ l.filter (key · == name) = [a] := by
  rw [← List.head?_filter]
  constructor
  · intro hhead
    obtain ⟨rest, hfilter⟩ := List.head?_eq_some_iff.mp hhead
    have hkeys : ((a :: rest).map key).Nodup := hfilter ▸ (List.filter_sublist.map key).nodup hnd
    have hname : ∀ b ∈ a :: rest, key b = name := by
      intro b hb
      rw [← hfilter] at hb
      exact beq_iff_eq.mp (List.mem_filter.mp hb).2
    have hrest : rest = [] := by
      refine List.eq_nil_iff_forall_not_mem.mpr fun b hb => ?_
      refine (List.nodup_cons.mp hkeys).1 (List.mem_map.mpr ⟨b, hb, ?_⟩)
      rw [hname b (List.mem_cons_of_mem _ hb), hname a List.mem_cons_self]
    rw [hfilter, hrest]
  · intro hfilter
    rw [hfilter]
    rfl

theorem find?_perm (hnd : (l.map key).Nodup) (h : l'.Perm l) :
    l'.find? (key · == name) = l.find? (key · == name) := by
  refine Option.ext fun a => ?_
  rw [find?_eq_some_iff_filter hnd, find?_eq_some_iff_filter ((h.map key).nodup_iff.mpr hnd),
    ← List.perm_singleton, ← List.perm_singleton]
  exact ⟨(h.filter _).symm.trans, (h.filter _).trans⟩

end

/-! ## The check -/

namespace Section

theorem checkKeys_eq_ok_iff {s : Section} : s.checkKeys = .ok () ↔ s.keys.Nodup := by
  rw [← repeatedKey?_eq_none_iff, checkKeys]
  cases s.repeatedKey? with
  | none => exact ⟨fun _ => rfl, fun _ => rfl⟩
  | some key => exact ⟨nofun, nofun⟩

theorem checkKeys_eq_error_iff {s : Section} {e : SchemaError} :
    s.checkKeys = .error e ↔
      ∃ key, IsFirstRepeated s.keys key ∧ e = .duplicateKey s.name key := by
  simp only [← repeatedKey?_eq_some_iff, checkKeys]
  cases s.repeatedKey? with
  | none => exact ⟨nofun, nofun⟩
  | some key =>
      rw [Except.error.injEq]
      constructor
      · rintro rfl
        exact ⟨key, rfl, rfl⟩
      · rintro ⟨_, hkey, rfl⟩
        rw [Option.some.inj hkey]

/-- A section passes the check exactly if its keys are distinct.  Otherwise it is
refused under its own name for the key at the first place that has one from an
earlier place.  Where it passes, what is found by a key is the one field of the
section and of all within it that has this key, and going through the fields in
another order finds the same. -/
theorem checkKeys_exact (s : Section) :
    (s.checkKeys = .ok () ↔ s.keys.Nodup)
    ∧ (∀ e, s.checkKeys = .error e ↔
      ∃ i key, s.keys[i]? = some key ∧ RepeatsAt s.keys i ∧ (∀ j < i, ¬ RepeatsAt s.keys j)
        ∧ e = .duplicateKey s.name key)
    ∧ (s.checkKeys = .ok () → ∀ key,
      (∀ f, s.field? key = some f ↔
        (s.subsections.flatMap fields).filter (·.key == key) = [f])
      ∧ ∀ reordered : List Field, reordered.Perm s.allFields →
        reordered.find? (·.key == key) = s.field? key) := by
  refine ⟨checkKeys_eq_ok_iff, fun e => ?_, fun hok key => ⟨fun f => ?_, fun reordered h => ?_⟩⟩
  · simp only [checkKeys_eq_error_iff, isFirstRepeated_iff_repeatsAt]
    constructor
    · rintro ⟨key, ⟨i, hkey, hrepeats, hfirst⟩, he⟩
      exact ⟨i, key, hkey, hrepeats, hfirst, he⟩
    · rintro ⟨i, key, hkey, hrepeats, hfirst, he⟩
      exact ⟨key, ⟨i, hkey, hrepeats, hfirst⟩, he⟩
  · rw [flatMap_fields_subsections]
    exact find?_eq_some_iff_filter (checkKeys_eq_ok_iff.mp hok)
  · exact find?_perm (checkKeys_eq_ok_iff.mp hok) h

theorem checkKeys_exact_twice :
    let part : Section := ⟨"part", none, [⟨"k", .int, ""⟩], []⟩
    let between : Section := ⟨"between", none, [⟨"l", .bool, ""⟩], [part]⟩
    let once : Section := ⟨"once", some "x", [⟨"m", .string, ""⟩], [between]⟩
    let twice : Section := ⟨"twice", some "x", [⟨"m", .string, ""⟩], [part, between, part]⟩
    twice.keys = ["m", "k", "l", "k", "k"]
      ∧ twice.checkKeys = .error (.duplicateKey "twice" "k")
      ∧ once.checkKeys = .ok ()
      ∧ once.field? "k" = some ⟨"k", .int, ""⟩
      ∧ once.allFields.reverse.find? (·.key == "k") = once.field? "k" := by
  intro part between once twice
  have hok : once.checkKeys = .ok () := rfl
  obtain ⟨hfield, hreordered⟩ := (checkKeys_exact once).2.2 hok "k"
  have hrepeats : RepeatsAt twice.keys 3 ∧ ∀ j < 3, ¬ RepeatsAt twice.keys j := by decide
  exact ⟨rfl, ((checkKeys_exact twice).2.1 _).mpr ⟨3, "k", rfl, hrepeats.1, hrepeats.2, rfl⟩, hok,
    (hfield _).mpr rfl, hreordered _ (List.reverse_perm _)⟩

end Section

end IndexerSettings
