import Mathlib.Data.List.Nodup
import IndexerSettings.Proofs.Schema.Fields

/-!
# Runs of registrations

Sections registered one after the other, where one that is refused does not end
the run.  What a single registration comes to is given by a relation
(`Registers`), whose cases say which of the possible reasons for a refusal is
the one reported, and a run is a chain of such steps (`RegistersAll`).

Registration returns a registry, so that a refusal cannot have changed one.
Next to it stands a program that changes a list of entries in place (`enter`),
on which nothing is imposed.  The two come to the same, so it is a fact about
that program that it leaves the entries alone when it refuses.
-/

namespace IndexerSettings.Registry

open Section (IsFirstRepeated repeatedKey?_eq_some_iff repeatedKey?_eq_none_iff)

abbrev Entries := List (String × Section)

/-! ## What registrations come to -/

/-- What registering a section comes to, and what is registered afterwards. -/
inductive Registers (entries : Entries) (s : Section) : Except SchemaError Unit → Entries → Prop
  | missingScope (hscope : s.scope = none) :
      Registers entries s (.error (.missingScope s.name)) entries
  | duplicateScope {scope : String} {existing : Section} (hscope : s.scope = some scope)
      (htaken : (scope, existing) ∈ entries) :
      Registers entries s (.error (.duplicateScope scope existing.name)) entries
  | duplicateKey {scope key : String} (hscope : s.scope = some scope)
      (hfree : scope ∉ entries.map Prod.fst) (hkey : IsFirstRepeated s.keys key) :
      Registers entries s (.error (.duplicateKey s.name key)) entries
  | registered {scope : String} (hscope : s.scope = some scope)
      (hfree : scope ∉ entries.map Prod.fst) (hkeys : s.keys.Nodup) :
      Registers entries s (.ok ()) (entries ++ [(scope, s)])

/-- Each section of a run registered in what those before it have left. -/
inductive RegistersAll :
    Entries → List Section → List (Except SchemaError Unit) → Entries → Prop
  | nil (entries : Entries) : RegistersAll entries [] [] entries
  | cons {entries mid after : Entries} {s : Section} {rest : List Section}
      {outcome : Except SchemaError Unit} {outcomes : List (Except SchemaError Unit)}
      (hfirst : Registers entries s outcome mid) (hrest : RegistersAll mid rest outcomes after) :
      RegistersAll entries (s :: rest) (outcome :: outcomes) after

/-- The sections of a run that were not refused, with their scopes. -/
def accepted (calls : List Section) (outcomes : List (Except SchemaError Unit)) : Entries :=
  (calls.zip outcomes).filterMap fun
    | (s, .ok ()) => s.scope.map (·, s)
    | (_, .error _) => none

/-! ## One registration -/

/-- A registration that may fail: what it comes to, and the registry after it. -/
def step (r : Registry) (s : Section) : Except SchemaError Unit × Registry :=
  match r.register s with
  | .ok r' => (.ok (), r')
  | .error e => (.error e, r)

/-- Registration in place.  Each check may end it, and what passes them all is
put at the end. -/
def enter (s : Section) : EStateM SchemaError Entries Unit := do
  let some scope := s.scope | throw (.missingScope s.name)
  if let some (_, existing) := (← get).find? (·.1 == scope) then
    throw (.duplicateScope scope existing.name)
  if let some key := s.repeatedKey? then
    throw (.duplicateKey s.name key)
  modify (· ++ [(scope, s)])

variable {r : Registry} {s : Section} {entries after after' : Entries}
  {outcome outcome' : Except SchemaError Unit} {scope : String}

theorem register_cases :
    (s.scope = none ∧ r.register s = .error (.missingScope s.name))
    ∨ (∃ scope existing, s.scope = some scope ∧ r.section? scope = some existing
        ∧ r.register s = .error (.duplicateScope scope existing.name))
    ∨ (∃ scope key, s.scope = some scope ∧ r.section? scope = none
        ∧ s.repeatedKey? = some key ∧ r.register s = .error (.duplicateKey s.name key))
    ∨ ∃ scope, s.scope = some scope ∧ r.section? scope = none ∧ s.repeatedKey? = none
        ∧ ∃ r', r.register s = .ok r' ∧ r'.entries = r.entries ++ [(scope, s)] := by
  unfold register
  split
  · rename_i hscope
    exact .inl ⟨hscope, rfl⟩
  · rename_i scope hscope
    right
    split
    · rename_i existing htaken
      exact .inl ⟨scope, existing, hscope, htaken, rfl⟩
    · rename_i hfree
      right
      split
      · rename_i key hkey
        exact .inl ⟨scope, key, hscope, hfree, hkey, rfl⟩
      · rename_i hkeys
        exact .inr ⟨scope, hscope, hfree, hkeys, _, rfl, rfl⟩

theorem registers_step (r : Registry) (s : Section) :
    Registers r.entries s (r.step s).1 (r.step s).2.entries := by
  unfold step
  obtain ⟨hscope, hr⟩ | ⟨scope, existing, hscope, htaken, hr⟩
    | ⟨scope, key, hscope, hfree, hkey, hr⟩
    | ⟨scope, hscope, hfree, hkeys, r', hr, hentries⟩ := register_cases (r := r) (s := s)
  · rw [hr]
    exact .missingScope hscope
  · rw [hr]
    exact .duplicateScope hscope (mem_entries_of_section?_eq_some htaken)
  · rw [hr]
    exact .duplicateKey hscope (not_mem_of_section?_eq_none hfree)
      (repeatedKey?_eq_some_iff.mp hkey)
  · simp only [hr, hentries]
    exact .registered hscope (not_mem_of_section?_eq_none hfree)
      (repeatedKey?_eq_none_iff.mp hkeys)

/-- A registry is what registering its sections in their order gives. -/
theorem ofSections_entries (r : Registry) : ofSections (r.entries.map Prod.snd) = .ok r := by
  have hrest : ∀ (later : Entries) (q : Registry), r.entries = q.entries ++ later →
      (later.map Prod.snd).foldlM register q = .ok r := by
    intro later
    induction later with
    | nil =>
        intro q hq
        rw [List.append_nil] at hq
        obtain ⟨entries, _, _, _⟩ := q
        obtain rfl : r.entries = entries := hq
        rfl
    | cons e rest ih =>
        intro q hq
        have he : e ∈ r.entries := hq ▸ List.mem_append_right _ List.mem_cons_self
        have hfree : e.1 ∉ q.entries.map Prod.fst := by
          have hnd := r.distinct
          rw [hq, List.map_append, List.nodup_append] at hnd
          intro hmem
          exact hnd.2.2 e.1 hmem e.1 List.mem_cons_self rfl
        have hscope := r.scopeMatches e he
        have hkeys := repeatedKey?_eq_none_iff.mpr (r.uniqueKeys e he)
        obtain ⟨hnone, -⟩ | ⟨scope, existing, hscope', htaken, -⟩ | ⟨scope, key, -, -, hkey, -⟩
          | ⟨scope, hscope', -, -, q', hregister, hentries⟩ := register_cases (r := q) (s := e.2)
        · rw [hscope] at hnone
          cases hnone
        · rw [hscope] at hscope'
          obtain rfl := Option.some.inj hscope'
          exact absurd (List.mem_map_of_mem (mem_entries_of_section?_eq_some htaken)) hfree
        · rw [hkeys] at hkey
          cases hkey
        · rw [hscope] at hscope'
          obtain rfl := Option.some.inj hscope'
          rw [List.map_cons, List.foldlM_cons, hregister]
          refine ih q' ?_
          rw [hentries, hq, List.append_assoc]
          rfl
  exact hrest r.entries .empty rfl

/-! ### In place -/

theorem run_enter_of_missing (hscope : s.scope = none) (entries : Entries) :
    (enter s).run entries = .error (.missingScope s.name) entries := by
  unfold enter
  rw [hscope]
  rfl

theorem run_enter_of_taken {e : String × Section} (hscope : s.scope = some scope)
    (htaken : entries.find? (·.1 == scope) = some e) :
    (enter s).run entries = .error (.duplicateScope scope e.2.name) entries := by
  obtain ⟨_, existing⟩ := e
  unfold enter
  rw [hscope]
  simp only [EStateM.run_bind, EStateM.run_get, EStateM.run_throw, htaken]

theorem run_enter_of_free (hscope : s.scope = some scope)
    (hfree : entries.find? (·.1 == scope) = none) :
    (enter s).run entries = match s.repeatedKey? with
      | some key => .error (.duplicateKey s.name key) entries
      | none => .ok () (entries ++ [(scope, s)]) := by
  unfold enter
  rw [hscope]
  simp only [EStateM.run_bind, EStateM.run_get, hfree]
  cases s.repeatedKey? <;> rfl

theorem run_observing {ε σ α : Type} (x : EStateM ε σ α) (state : σ) :
    (observing x).run state = match x.run state with
      | .ok a state' => .ok (.ok a) state'
      | .error e state' => .ok (.error e) state' := by
  simp only [observing, tryCatch, tryCatchThe, MonadExceptOf.tryCatch, EStateM.tryCatch, bind,
    EStateM.bind, EStateM.run]
  cases x state <;> rfl

/-- In place, a registration comes to what it has to. -/
theorem run_enter_of_registers (hnd : (entries.map Prod.fst).Nodup)
    (h : Registers entries s outcome after) :
    (observing (enter s)).run entries = .ok outcome after := by
  rw [run_observing]
  cases h with
  | missingScope hscope => rw [run_enter_of_missing hscope]
  | duplicateScope hscope htaken => rw [run_enter_of_taken hscope (find?_of_nodup_keys hnd htaken)]
  | duplicateKey hscope hfree hkey =>
      rw [run_enter_of_free hscope (find?_of_notMem_keys hfree), repeatedKey?_eq_some_iff.mpr hkey]
  | registered hscope hfree hkeys =>
      rw [run_enter_of_free hscope (find?_of_notMem_keys hfree), repeatedKey?_eq_none_iff.mpr hkeys]

theorem Registers.unique (hnd : (entries.map Prod.fst).Nodup)
    (h : Registers entries s outcome after) (h' : Registers entries s outcome' after') :
    outcome = outcome' ∧ after = after' := by
  have heq := (run_enter_of_registers hnd h).symm.trans (run_enter_of_registers hnd h')
  exact EStateM.Result.ok.inj heq

/-! ## Runs -/

/-- Registers sections one after the other, whatever becomes of each. -/
def registerAll (r : Registry) : List Section → List (Except SchemaError Unit) × Registry
  | [] => ([], r)
  | s :: rest =>
    let (outcome, r) := r.step s
    let (outcomes, r) := registerAll r rest
    (outcome :: outcomes, r)

/-- The same in place. -/
def enterAll (calls : List Section) : EStateM SchemaError Entries (List (Except SchemaError Unit)) :=
  calls.mapM fun s => observing (enter s)

variable {calls : List Section} {outcomes : List (Except SchemaError Unit)}

theorem registersAll_registerAll (r : Registry) (calls : List Section) :
    RegistersAll r.entries calls (r.registerAll calls).1 (r.registerAll calls).2.entries := by
  induction calls generalizing r with
  | nil => exact .nil r.entries
  | cons s rest ih => exact .cons (registers_step r s) (ih (r.step s).2)

/-- A run is determined by what is registered at its start.  The induction is over
registries, for their entries have the distinct scopes that a step needs. -/
theorem RegistersAll.eq_registerAll (h : RegistersAll r.entries calls outcomes after) :
    outcomes = (r.registerAll calls).1 ∧ after = (r.registerAll calls).2.entries := by
  induction calls generalizing r outcomes with
  | nil =>
      cases h
      exact ⟨rfl, rfl⟩
  | cons s rest ih =>
      cases h with
      | cons hfirst hrest =>
          obtain ⟨rfl, rfl⟩ := hfirst.unique r.distinct (registers_step r s)
          obtain ⟨rfl, rfl⟩ := ih hrest
          exact ⟨rfl, rfl⟩

theorem Registers.eq_append (h : Registers entries s outcome after) :
    after = entries ++ accepted [s] [outcome] := by
  cases h with
  | missingScope => exact (List.append_nil entries).symm
  | duplicateScope => exact (List.append_nil entries).symm
  | duplicateKey => exact (List.append_nil entries).symm
  | registered hscope => simp [accepted, hscope]

/-- A run adds what it accepts, in its order, and nothing else. -/
theorem RegistersAll.eq_append (h : RegistersAll entries calls outcomes after) :
    outcomes.length = calls.length ∧ after = entries ++ accepted calls outcomes := by
  induction h with
  | nil entries => exact ⟨rfl, (List.append_nil entries).symm⟩
  | @cons entries mid after s rest outcome outcomes hfirst hrest ih =>
      obtain ⟨hlength, hafter⟩ := ih
      refine ⟨congrArg (· + 1) hlength, ?_⟩
      have haccepted : accepted (s :: rest) (outcome :: outcomes)
          = accepted [s] [outcome] ++ accepted rest outcomes := by
        rw [accepted, List.zip_cons_cons, ← List.singleton_append, List.filterMap_append]
        rfl
      rw [hafter, hfirst.eq_append, haccepted, List.append_assoc]

theorem run_enterAll (r : Registry) (calls : List Section) :
    (enterAll calls).run r.entries
      = .ok (r.registerAll calls).1 (r.registerAll calls).2.entries := by
  induction calls generalizing r with
  | nil => rfl
  | cons s rest ih =>
      have hfirst := run_enter_of_registers r.distinct (registers_step r s)
      have hrest := ih (r.step s).2
      rw [enterAll, List.mapM_cons]
      simp only [EStateM.run_bind, hfirst]
      rw [← enterAll, hrest]
      rfl

/-- A run of registrations from nothing. -/
theorem registerAll_exact (calls : List Section) :
    let outcomes := (registerAll .empty calls).1
    let r := (registerAll .empty calls).2
    (∀ outcomes' after, RegistersAll [] calls outcomes' after ↔
        outcomes' = outcomes ∧ after = r.entries)
      ∧ (enterAll calls).run [] = .ok outcomes r.entries
      ∧ outcomes.length = calls.length
      ∧ r.entries = accepted calls outcomes
      ∧ r.scopes.Nodup
      ∧ ∀ e ∈ r.entries, e.2.keys.Nodup := by
  intro outcomes r
  have hrun : RegistersAll [] calls outcomes r.entries := registersAll_registerAll .empty calls
  obtain ⟨hlength, hentries⟩ := hrun.eq_append
  refine ⟨fun outcomes' after => ⟨fun h => ?_, ?_⟩, run_enterAll .empty calls, hlength, hentries,
    r.distinct, r.uniqueKeys⟩
  · exact RegistersAll.eq_registerAll (r := .empty) h
  · rintro ⟨rfl, rfl⟩
    exact hrun

theorem registerAll_exact_refused :
    let field : Field := ⟨"k", .string, ""⟩
    let part : Section := ⟨"part", none, [field], []⟩
    let first : Section := ⟨"first", some "x", [], [part]⟩
    let second : Section := ⟨"second", some "x", [field], [part]⟩
    let third : Section := ⟨"third", some "y", [field], [⟨"between", some "x", [], [part]⟩]⟩
    let outcomes : List (Except SchemaError Unit) := [.error (.missingScope "part"), .ok (),
      .error (.duplicateScope "x" "first"), .error (.duplicateKey "third" "k")]
    RegistersAll [] [part, first, second, third] outcomes [("x", first)]
      ∧ (enterAll [part, first, second, third]).run [] = .ok outcomes [("x", first)]
      ∧ ("x", first) ∈ (registerAll .empty [part, first, second, third]).2.entries
      ∧ first.keys.Nodup := by
  intro field part first second third outcomes
  have hentries : (registerAll .empty [part, first, second, third]).2.entries = [("x", first)] := rfl
  have hmem : ("x", first) ∈ (registerAll .empty [part, first, second, third]).2.entries := by
    rw [hentries]
    exact List.mem_singleton_self _
  obtain ⟨hruns, henter, -, -, -, hkeys⟩ := registerAll_exact [part, first, second, third]
  exact ⟨(hruns outcomes [("x", first)]).mpr ⟨rfl, rfl⟩, henter.trans rfl, hmem, hkeys _ hmem⟩

end IndexerSettings.Registry
