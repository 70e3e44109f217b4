import IndexerSettings.Proofs.Source.Refusing

/-!
# Overrides in place

An override gives a source back, or an error and no source.  Beside it stands a
program that changes what it is applied to step by step (`enterOverride`), and
that puts a missing section into the members before it looks whether there is an
object to write to.  The two come to the same, so it is a fact about that program
that it leaves everything as it was when it fails (`Source.run_enterOverride`):
a section that it has put there is an object, and nothing fails behind that.

Whether an override succeeds is decided by four conditions, one behind the other,
and one that succeeds changes the value in one place (`Source.override_exact`).
-/

namespace IndexerSettings

open Json (insert_insert lookup_insert_self lookup_insert_of_ne)

/-! ## Documents changed in one place -/

namespace Document

variable {d d' : Document} {scope key : String} {value : Json.Scalar}

/-- Documents that agree but for the value in one place.  The object around that
place counts as empty where there was none. -/
structure ChangedAt (d : Document) (scope key : String) (value : Json) (d' : Document) : Prop where
  others : ∀ name, name ≠ scope → d'.get? name = d.get? name
  fields : ∃ before after, d.fields? scope = some before ∧ d'.get? scope = some (.object after)
    ∧ after.lookup key = some value
    ∧ ∀ name, name ≠ key → after.lookup name = before.lookup name

theorem fields?_eq_some_iff {fields : List Json.Member} :
    d.fields? scope = some fields ↔
      (d.get? scope = none ∧ fields = []) ∨ d.get? scope = some (.object fields) := by
  unfold fields?
  split
  · rename_i hget
    simp [hget, eq_comm]
  · rename_i hget
    simp [hget]
  · rename_i hne hget
    simpa [hget] using fun heq => hne _ heq

/-- There is room for a field where a section is an object, or absent. -/
theorem exists_fields?_iff :
    (∃ fields, d.fields? scope = some fields) ↔
      d.get? scope = none ∨ ∃ fields, d.get? scope = some (.object fields) := by
  simp only [fields?_eq_some_iff, exists_or, exists_and_left, exists_eq, and_true]

theorem changedAt_of_put? (h : d.put? scope key value = some d') :
    d.ChangedAt scope key (.scalar value) d' := by
  obtain ⟨fields, hfields, hmembers⟩ := exists_members_of_put? h
  have hget : ∀ name, d'.get? name = (Json.insert scope
      (.object (Json.insert key (.scalar value) fields)) d.members).lookup name := by
    intro name
    rw [get?, hmembers]
  refine ⟨fun name hne => ?_, fields, Json.insert key (.scalar value) fields, hfields, ?_,
    lookup_insert_self .., fun name hne => lookup_insert_of_ne hne ..⟩
  · rw [hget, lookup_insert_of_ne hne]
    rfl
  · rw [hget, lookup_insert_self]

end Document

namespace Source

variable {s s' : Source} {r : Registry} {assignment : String} {a : Assignment}
  {entry : FieldEntry} {value : Json.Scalar}

/-! ## Overrides that are taken -/

/-- An override that a source takes: what it is written as, the field that it is
for, and the value that it puts there. -/
structure Takes (s : Source) (r : Registry) (assignment : String) (a : Assignment)
    (entry : FieldEntry) (value : Json.Scalar) : Prop where
  written : a.WrittenAs assignment
  field : r.field? a.key = some entry
  coerced : entry.field.kind.coerce? a.value = some value
  room : s.document.get? entry.scope = none
    ∨ ∃ fields, s.document.get? entry.scope = some (.object fields)

theorem takes_of_override (h : s.override r assignment = .ok s') :
    ∃ a entry value, s.Takes r assignment a entry value := by
  obtain ⟨a, entry, value, ha, hentry, hvalue, hput, -⟩ := of_override_eq_ok h
  obtain ⟨fields, hfields, -⟩ := Document.exists_members_of_put? hput
  exact ⟨a, entry, value, Assignment.ofText?_eq_some_iff.mp ha, hentry, hvalue,
    Document.exists_fields?_iff.mp ⟨fields, hfields⟩⟩

/-- What a source takes is put where the field is, and the key counts as
overridden from then on. -/
theorem Takes.exists_override (h : s.Takes r assignment a entry value) :
    ∃ d, s.document.put? entry.scope entry.field.key value = some d
      ∧ s.override r assignment = .ok ⟨d,
          if a.key ∈ s.overridden then s.overridden else s.overridden ++ [a.key]⟩ := by
  have hfields : (s.document.fields? entry.scope).isSome :=
    Option.isSome_iff_exists.mpr (Document.exists_fields?_iff.mpr h.room)
  rw [← Document.isSome_put? s.document entry.scope entry.field.key value] at hfields
  obtain ⟨d, hput⟩ := Option.isSome_iff_exists.mp hfields
  refine ⟨d, hput, ?_⟩
  rw [override, Assignment.ofText?_eq_some_iff.mpr h.written]
  simp only [assign, h.field, h.coerced, hput]

theorem changedAt_of_override (hs' : s.override r assignment = .ok s')
    (h : s.Takes r assignment a entry value) :
    s.document.ChangedAt entry.scope entry.field.key (.scalar value) s'.document := by
  obtain ⟨d, hput, hd⟩ := h.exists_override
  obtain rfl := Except.ok.inj (hs'.symm.trans hd)
  exact Document.changedAt_of_put? hput

/-- The key of an override is that of a leaf, and so it is supplied. -/
theorem key_mem_suppliedKeys (hs' : s.override r assignment = .ok s')
    (h : s.Takes r assignment a entry value) : a.key ∈ s'.suppliedKeys := by
  obtain ⟨before, after, -, hget, hlookup, -⟩ := (changedAt_of_override hs' h).fields
  have hat : s'.document.at? entry.scope entry.field.key = some (.scalar value) := by
    rw [Document.at?_of_get? hget, hlookup]
  rw [(Registry.of_field?_eq_some h.field).1]
  exact List.mem_append_left _ (Document.flatKey_mem_of_at? hat)

/-! ## In place -/

/-- What a source holds, on which nothing is imposed. -/
structure Draft where
  members : List Json.Member
  overridden : List String

def draft (s : Source) : Draft := ⟨s.document.members, s.overridden⟩

/-- The value of a member, which is put there first where it is missing. -/
def memberOr (name : String) (default : Json) : EStateM LoadError Draft Json := do
  match (← get).members.lookup name with
  | some j => return j
  | none =>
    modify fun t => { t with members := Json.insert name default t.members }
    return default

/-- An override in place.  It may fail when the section that it is for has been
looked up already. -/
def enterOverride (r : Registry) (assignment : String) : EStateM LoadError Draft Unit := do
  let some a := Assignment.ofText? assignment | throw (.malformedOverride assignment)
  let some entry := r.field? a.key | throw (.unknownKey a.key)
  let some value := entry.field.kind.coerce? a.value
    | throw (.invalidOverride a.key a.value entry.field.kind)
  let .object fields ← memberOr entry.scope (.object [])
    | throw (.sectionNotObject entry.scope)
  let fields := Json.insert entry.field.key (.scalar value) fields
  modify fun t => { t with members := Json.insert entry.scope (.object fields) t.members }
  modify fun t =>
    if a.key ∈ t.overridden then t else { t with overridden := t.overridden ++ [a.key] }

variable {t : Draft} {e : LoadError}

theorem run_memberOr_of_some {name : String} {j : Json} (h : t.members.lookup name = some j)
    (default : Json) : (memberOr name default).run t = .ok j t := by
  unfold memberOr
  simp only [EStateM.run_bind, EStateM.run_get, h, EStateM.run_pure]

theorem run_memberOr_of_none {name : String} (h : t.members.lookup name = none)
    (default : Json) :
    (memberOr name default).run t
      = .ok default { t with members := Json.insert name default t.members } := by
  unfold memberOr
  simp only [EStateM.run_bind, EStateM.run_get, h, EStateM.run_modify, EStateM.run_pure]

/-- A section that is there is looked up without putting anything in. -/
theorem run_enterOverride_of_refuses (h : s.Refuses r assignment e) :
    (enterOverride r assignment).run s.draft = .error e s.draft := by
  unfold enterOverride
  cases h with
  | noSign h =>
      rw [Assignment.ofText?_eq_none_iff.mpr h]
      rfl
  | noField ha hkey =>
      simp only [Assignment.ofText?_eq_some_iff.mpr ha, hkey, EStateM.run_throw]
  | noValue ha hentry hvalue =>
      simp only [Assignment.ofText?_eq_some_iff.mpr ha, hentry, hvalue, EStateM.run_throw]
  | @noObject a entry value j ha hentry hvalue hsection hobject =>
      have hmember := run_memberOr_of_some (t := s.draft) hsection (.object [])
      simp only [Assignment.ofText?_eq_some_iff.mpr ha, hentry, hvalue, EStateM.run_bind, hmember]
      cases j with
      | scalar v => rfl
      | array elements => rfl
      | object fields => exact absurd rfl (hobject fields)

/-- Where there was no section, the empty one that is put in is written over. -/
theorem run_enterOverride_of_takes (h : s.Takes r assignment a entry value)
    (hs' : s.override r assignment = .ok s') :
    (enterOverride r assignment).run s.draft = .ok () s'.draft := by
  obtain ⟨d, hput, hd⟩ := h.exists_override
  obtain rfl := Except.ok.inj (hs'.symm.trans hd)
  obtain ⟨fields, hfields, hmembers⟩ := Document.exists_members_of_put? hput
  unfold enterOverride
  simp only [Assignment.ofText?_eq_some_iff.mpr h.written, h.field, h.coerced, EStateM.run_bind]
  rcases Document.fields?_eq_some_iff.mp hfields with ⟨hnone, rfl⟩ | hsome
  · rw [run_memberOr_of_none (t := s.draft) hnone]
    simp only [EStateM.run_bind, EStateM.run_modify, insert_insert, draft, hmembers]
    split <;> rfl
  · rw [run_memberOr_of_some (t := s.draft) hsome]
    simp only [EStateM.run_bind, EStateM.run_modify, draft, hmembers]
    split <;> rfl

/-- In place, an override does what it has to, or nothing. -/
theorem run_enterOverride (s : Source) (r : Registry) (assignment : String) :
    (enterOverride r assignment).run s.draft
      = match s.override r assignment with
        | .ok s' => .ok () s'.draft
        | .error e => .error e s.draft := by
  cases hs' : s.override r assignment with
  | error e => exact run_enterOverride_of_refuses (override_eq_error_iff_refuses.mp hs')
  | ok s' =>
      obtain ⟨a, entry, value, h⟩ := takes_of_override hs'
      exact run_enterOverride_of_takes h hs'

/-- An override is taken or it is refused for the first reason that there is,
and nothing has changed then.  One that is taken changes the value of its field
alone. -/
theorem override_exact (s : Source) (r : Registry) (assignment : String) :
    ((∃ s', s.override r assignment = .ok s') ↔
        ∃ a entry value, s.Takes r assignment a entry value)
      ∧ (∀ e, s.override r assignment = .error e ↔ s.Refuses r assignment e)
      ∧ (enterOverride r assignment).run s.draft
        = (match s.override r assignment with
          | .ok s' => .ok () s'.draft
          | .error e => .error e s.draft)
      ∧ ∀ s' a entry value, s.override r assignment = .ok s' →
        s.Takes r assignment a entry value →
          s.document.ChangedAt entry.scope entry.field.key (.scalar value) s'.document
          ∧ a.key ∈ s'.suppliedKeys := by
  refine ⟨⟨fun ⟨s', h⟩ => takes_of_override h, fun ⟨a, entry, value, h⟩ => ?_⟩,
    fun e => override_eq_error_iff_refuses, run_enterOverride s r assignment,
    fun s' a entry value hs' h => ⟨changedAt_of_override hs' h, key_mem_suppliedKeys hs' h⟩⟩
  obtain ⟨d, -, hs'⟩ := h.exists_override
  exact ⟨_, hs'⟩

/-- Further equals signs belong to the value, a missing section is created, and
one that is no object is left alone. -/
theorem override_exact_database :
    let s : Source := ⟨.ofMembers [("log", .array [])], []⟩
    let entry : FieldEntry := ⟨"database", .database, ⟨"database", .string, "database name"⟩⟩
    let a : Assignment := ⟨"database.database", " a=b"⟩
    ∃ s', s.override .indexer " database.database = a=b" = .ok s'
      ∧ s.Takes .indexer " database.database = a=b" a entry (.string " a=b")
      ∧ s.document.ChangedAt "database" "database" (.scalar (.string " a=b")) s'.document
      ∧ a.key ∈ s'.suppliedKeys
      ∧ s.Refuses .indexer "log.level=info" (.sectionNotObject "log")
      ∧ (enterOverride .indexer "log.level=info").run s.draft
        = .error (.sectionNotObject "log") s.draft := by
  intro s entry a
  have hentry : Registry.indexer.field? "database.database" = some entry := rfl
  have htakes : s.Takes .indexer " database.database = a=b" a entry (.string " a=b") :=
    ⟨Assignment.ofText?_eq_some_iff.mp rfl, hentry, rfl, .inl rfl⟩
  obtain ⟨htaken, -, -, hchanges⟩ := override_exact s .indexer " database.database = a=b"
  obtain ⟨s', hs'⟩ := htaken.mpr ⟨a, entry, _, htakes⟩
  obtain ⟨hchanged, hsupplied⟩ := hchanges s' a entry _ hs' htakes
  obtain ⟨-, hrefused, hrun, -⟩ := override_exact s .indexer "log.level=info"
  have hlog : s.override .indexer "log.level=info" = .error (.sectionNotObject "log") := rfl
  rw [hlog] at hrun
  exact ⟨s', hs', htakes, hchanged, hsupplied, (hrefused _).mp hlog, hrun⟩

end Source

end IndexerSettings
