import IndexerSettings.Proofs.Schema.FlatKeys
import IndexerSettings.Proofs.Source.LastWins
import IndexerSettings.Proofs.Text.Trimming

/-!
# Why overrides are refused

An override is refused for one of four reasons: it has no equals sign, its key
names no field, its text is no value of the field, or the section to write to is
there and no object.  The last one alone depends on the document, and overrides
do not change it.  The document that was read therefore decides which of a list
of overrides is refused (`Source.overrideAll_eq_error_iff`).
-/

namespace IndexerSettings

open Outcome (map_eq_error_iff forM_eq_error_iff)

/-! ## Assignments and their texts -/

namespace Assignment

variable {text : String} {a : Assignment}

theorem ofText?_eq_none_iff : ofText? text = none ↔ '=' ∉ text.toList := by
  rw [← Text.dropWhile_eq_nil_iff, ofText?]
  split
  · rename_i heq
    simp [heq]
  · rename_i heq
    simp [heq]

/-- An assignment is written as its key, perhaps with blanks around it, an equals
sign, which is the first one, and its value as it is. -/
def WrittenAs (a : Assignment) (text : String) : Prop :=
  ∃ before, text.toList = before ++ '=' :: a.value.toList ∧ '=' ∉ before
    ∧ Text.Surrounds before a.key.toList

theorem ofText?_eq_some_iff : ofText? text = some a ↔ a.WrittenAs text := by
  obtain ⟨key, value⟩ := a
  rw [ofText?, WrittenAs]
  simp only [← Text.split_iff, ← and_assoc, ← Text.trimChars_eq_iff]
  split
  · rename_i hnil
    simp [hnil]
  · rename_i c after hafter
    rw [hafter, Text.eq_of_dropWhile_eq_cons hafter]
    simp only [Option.some.injEq, Assignment.mk.injEq, List.cons.injEq, true_and]
    constructor
    · rintro ⟨rfl, rfl⟩
      exact ⟨_, ⟨rfl, String.toList_ofList.symm⟩, String.toList_ofList.symm⟩
    · rintro ⟨before, ⟨rfl, hvalue⟩, hkey⟩
      rw [hkey, hvalue, String.ofList_toList, String.ofList_toList]
      exact ⟨rfl, rfl⟩

end Assignment

/-- The indexer has a field for every key that it lists, and for no other. -/
theorem Registry.field?_indexer_eq_none_iff {key : String} :
    indexer.field? key = none ↔ key ∉ indexer.flatKeys := by
  rw [flatKeys_eq_map_declared, List.mem_map, Option.eq_none_iff_forall_ne_some]
  constructor
  · rintro hnone ⟨l, hl, rfl⟩
    have hdot := (dot_notMem_indexer _ (mem_declared.mp hl).1).1
    exact hnone l (field?_flatKey hl hdot)
  · intro hkey l hl
    exact hkey ⟨l, mem_declared_of_field? hl⟩

namespace Document

variable {d : Document} {scope key : String} {value : Json.Scalar}

theorem fields?_eq_none_iff :
    d.fields? scope = none ↔
      ∃ j, d.get? scope = some j ∧ ∀ members, j ≠ .object members := by
  unfold fields?
  split
  · rename_i hget
    simp [hget]
  · rename_i hget
    simp [hget]
  · rename_i j hne hget
    simpa [hget] using hne

theorem put?_eq_none_iff :
    d.put? scope key value = none ↔
      ∃ j, d.get? scope = some j ∧ ∀ members, j ≠ .object members := by
  rw [← fields?_eq_none_iff, ← Option.isNone_iff_eq_none, ← Option.isNone_iff_eq_none,
    ← Option.not_isSome, ← Option.not_isSome, isSome_put?]

/-- Why a document does not take an override, in the order in which this is
looked at. -/
inductive Refuses (d : Document) (assignment : String) : LoadError → Prop
  | noSign (h : '=' ∉ assignment.toList) : Refuses d assignment (.malformedOverride assignment)
  | noField {a : Assignment} (ha : Assignment.ofText? assignment = some a)
      (hkey : a.key ∉ Registry.indexer.flatKeys) : Refuses d assignment (.unknownKey a.key)
  | noValue {a : Assignment} {entry : FieldEntry} (ha : Assignment.ofText? assignment = some a)
      (hentry : Registry.indexer.field? a.key = some entry)
      (hvalue : entry.field.kind.coerce? a.value = none) :
      Refuses d assignment (.invalidOverride a.key a.value entry.field.kind)
  | noObject {a : Assignment} {entry : FieldEntry} {value : Json.Scalar} {j : Json}
      (ha : Assignment.ofText? assignment = some a)
      (hentry : Registry.indexer.field? a.key = some entry)
      (hvalue : entry.field.kind.coerce? a.value = some value)
      (hsection : d.get? entry.scope = some j) (hobject : ∀ members, j ≠ .object members) :
      Refuses d assignment (.sectionNotObject entry.scope)

end Document

namespace Source

open Registry (field?_indexer_eq_none_iff)

variable {src : Source} {r : Registry} {assignment : String} {overrides : List String}
  {e : LoadError}

/-- Why a source does not take an override, in the order in which this is looked
at. -/
inductive Refuses (src : Source) (r : Registry) (assignment : String) : LoadError → Prop
  | noSign (h : '=' ∉ assignment.toList) : Refuses src r assignment (.malformedOverride assignment)
  | noField {a : Assignment} (ha : a.WrittenAs assignment) (hkey : r.field? a.key = none) :
      Refuses src r assignment (.unknownKey a.key)
  | noValue {a : Assignment} {entry : FieldEntry} (ha : a.WrittenAs assignment)
      (hentry : r.field? a.key = some entry)
      (hvalue : entry.field.kind.coerce? a.value = none) :
      Refuses src r assignment (.invalidOverride a.key a.value entry.field.kind)
  | noObject {a : Assignment} {entry : FieldEntry} {value : Json.Scalar} {j : Json}
      (ha : a.WrittenAs assignment) (hentry : r.field? a.key = some entry)
      (hvalue : entry.field.kind.coerce? a.value = some value)
      (hsection : src.document.get? entry.scope = some j)
      (hobject : ∀ members, j ≠ .object members) :
      Refuses src r assignment (.sectionNotObject entry.scope)

/-- The reasons stand where an override looks for them, one behind the other. -/
theorem override_eq_error_iff_refuses :
    src.override r assignment = .error e ↔ src.Refuses r assignment e := by
  constructor
  · intro h
    unfold override at h
    split at h
    · rename_i ha
      obtain rfl := Except.error.inj h
      exact .noSign (Assignment.ofText?_eq_none_iff.mp ha)
    · rename_i a ha
      have ha' := Assignment.ofText?_eq_some_iff.mp ha
      unfold assign at h
      split at h
      · rename_i hentry
        obtain rfl := Except.error.inj h
        exact .noField ha' hentry
      · rename_i entry hentry
        split at h
        · rename_i hvalue
          obtain rfl := Except.error.inj h
          exact .noValue ha' hentry hvalue
        · rename_i value hvalue
          split at h
          · rename_i hput
            obtain rfl := Except.error.inj h
            obtain ⟨j, hsection, hobject⟩ := Document.put?_eq_none_iff.mp hput
            exact .noObject ha' hentry hvalue hsection hobject
          · cases h
  · intro h
    cases h with
    | noSign h =>
        rw [override, Assignment.ofText?_eq_none_iff.mpr h]
    | noField ha hkey =>
        rw [override, Assignment.ofText?_eq_some_iff.mpr ha]
        simp only [assign, hkey]
    | noValue ha hentry hvalue =>
        rw [override, Assignment.ofText?_eq_some_iff.mpr ha]
        simp only [assign, hentry, hvalue]
    | @noObject a entry value j ha hentry hvalue hsection hobject =>
        have hput : src.document.put? entry.scope entry.field.key value = none :=
          Document.put?_eq_none_iff.mpr ⟨j, hsection, hobject⟩
        rw [override, Assignment.ofText?_eq_some_iff.mpr ha]
        simp only [assign, hentry, hvalue, hput]

/-- Against the indexer only the document and the override matter. -/
theorem refuses_indexer_iff :
    src.Refuses .indexer assignment e ↔ src.document.Refuses assignment e := by
  constructor
  · rintro (h | ⟨ha, hkey⟩ | ⟨ha, hentry, hvalue⟩ | ⟨ha, hentry, hvalue, hsection, hobject⟩)
    · exact .noSign h
    · exact .noField (Assignment.ofText?_eq_some_iff.mpr ha) (field?_indexer_eq_none_iff.mp hkey)
    · exact .noValue (Assignment.ofText?_eq_some_iff.mpr ha) hentry hvalue
    · exact .noObject (Assignment.ofText?_eq_some_iff.mpr ha) hentry hvalue hsection hobject
  · rintro (h | ⟨ha, hkey⟩ | ⟨ha, hentry, hvalue⟩ | ⟨ha, hentry, hvalue, hsection, hobject⟩)
    · exact .noSign h
    · exact .noField (Assignment.ofText?_eq_some_iff.mp ha) (field?_indexer_eq_none_iff.mpr hkey)
    · exact .noValue (Assignment.ofText?_eq_some_iff.mp ha) hentry hvalue
    · exact .noObject (Assignment.ofText?_eq_some_iff.mp ha) hentry hvalue hsection hobject

theorem override_eq_error_iff :
    src.override .indexer assignment = .error e ↔ src.document.Refuses assignment e :=
  override_eq_error_iff_refuses.trans refuses_indexer_iff

theorem answer_indexer_eq_error_iff :
    src.answer .indexer assignment = .error e ↔ src.document.Refuses assignment e :=
  answer_eq_error_iff.trans override_eq_error_iff

theorem answer_indexer_eq_ok_iff :
    src.answer .indexer assignment = .ok () ↔ ∀ e, ¬src.document.Refuses assignment e := by
  simp only [← answer_indexer_eq_error_iff]
  cases src.answer .indexer assignment <;> simp

/-- A list of overrides is refused for the first that the document as it was
refuses. -/
theorem overrideAll_eq_error_iff :
    src.overrideAll .indexer overrides = .error e ↔
      ∃ before assignment after, overrides = before ++ assignment :: after
        ∧ (∀ b ∈ before, ∀ e, ¬src.document.Refuses b e)
        ∧ src.document.Refuses assignment e := by
  have hanswers := map_overrideAll (fun _ => rfl) .indexer (s := src) overrides
  rw [← map_eq_error_iff (f := fun _ => ()), hanswers, forM_eq_error_iff]
  simp only [answer_indexer_eq_ok_iff, answer_indexer_eq_error_iff]

end Source

end IndexerSettings
