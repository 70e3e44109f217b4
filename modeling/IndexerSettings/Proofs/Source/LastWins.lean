import IndexerSettings.Proofs.Json.Lookup
import IndexerSettings.Proofs.Outcome
import IndexerSettings.Proofs.Schema.Joined
import IndexerSettings.Proofs.Source.Overriding

/-!
# Overrides in a row

What an override asks for does not depend on the source, and a source takes it
or not by its sections alone, which no override changes from an object into
something else or back.  So a list of overrides is refused for its first
element that the source would refuse at the beginning (`map_overrideAll`).

Of the overrides of one key the last one counts (`Document.Overridden`).  This
describes the document completely, so their order does not matter otherwise.
-/

namespace IndexerSettings

open Json (Ascending lookup_insert_self lookup_insert_of_ne mem_of_lookup_eq_some
  mem_leafPathsOf_iff)
open Outcome (map_eq_ok_iff map_eq_error_iff forM_eq_ok_iff forM_eq_error_iff)

/-- The text that a list of assignments gives to a key in the end. -/
def Assignment.lastText? (assignments : List String) (key : String) : Option String :=
  ((assignments.filterMap ofText?).findRev? (·.key == key)).map value

theorem Assignment.lastText?_cons (assignment : String) (rest : List String) (key : String) :
    lastText? (assignment :: rest) key
      = (lastText? rest key).or (lastText? [assignment] key) := by
  rw [lastText?, lastText?, lastText?, ← Option.map_or, ← List.singleton_append,
    List.filterMap_append, List.findRev?_eq_find?_reverse, List.findRev?_eq_find?_reverse,
    List.findRev?_eq_find?_reverse, List.reverse_append, List.find?_append]

theorem Assignment.lastText?_singleton {assignment : String} {a : Assignment}
    (h : ofText? assignment = some a) (key : String) :
    lastText? [assignment] key = if a.key = key then some a.value else none := by
  rw [lastText?, List.filterMap_cons_some h]
  by_cases hkey : a.key = key
  · simp [List.findRev?, hkey]
  · simp [List.findRev?, hkey]

/-- Where each key is given once, its text is the last one. -/
theorem Assignment.lastText?_eq_some {assignments : List String} {a : Assignment}
    (hkeys : ((assignments.filterMap ofText?).map key).Nodup)
    (ha : a ∈ assignments.filterMap ofText?) : lastText? assignments a.key = some a.value := by
  rw [lastText?, List.findRev?_eq_find?_reverse]
  cases hfound : (assignments.filterMap ofText?).reverse.find? (·.key == a.key) with
  | none =>
      have hnone := List.find?_eq_none.mp hfound a (List.mem_reverse.mpr ha)
      simp at hnone
  | some b =>
      have hkey : b.key = a.key := by simpa using List.find?_some hfound
      have hb := List.mem_reverse.mp (List.mem_of_find?_eq_some hfound)
      obtain rfl := List.inj_on_of_nodup_map hkeys hb ha hkey
      rfl

/-! ## Fields that are named -/

namespace Registry

variable {r : Registry} {texts texts' : String → Option String} {scope name key : String}

/-- One of the keys that have a text names a field. -/
def Names (r : Registry) (texts : String → Option String) (scope name : String) : Prop :=
  ∃ key entry, (texts key).isSome ∧ r.field? key = some entry
    ∧ entry.scope = scope ∧ entry.field.key = name

theorem names_or_iff :
    r.Names (fun key => (texts' key).or (texts key)) scope name ↔
      r.Names texts' scope name ∨ r.Names texts scope name := by
  simp only [Names, Option.isSome_or, Bool.or_eq_true, or_and_right, exists_or]

/-- No other key names the same field. -/
theorem names_iff_of_field? {entry : FieldEntry} (h : r.field? key = some entry) :
    r.Names texts entry.scope entry.field.key ↔ (texts key).isSome := by
  constructor
  · rintro ⟨key', entry', hsome, hentry', hscope, hname⟩
    have hkey := (of_field?_eq_some h).1
    have hkey' := (of_field?_eq_some hentry').1
    rw [hscope, hname, ← hkey] at hkey'
    exact hkey' ▸ hsome
  · intro hsome
    exact ⟨key, entry, hsome, h, rfl, rfl⟩

end Registry

/-! ## Documents with values put into them -/

namespace Document

variable {d d' : Document} {scope key : String} {value : Json.Scalar}

theorem ext_members (h : d.members = d'.members) : d = d' := by
  obtain ⟨members, hd⟩ := d
  obtain ⟨members', hd'⟩ := d'
  obtain rfl : members = members' := h
  rfl

theorem ext_get? (h : ∀ name, d.get? name = d'.get? name) : d = d' :=
  ext_members (Ascending.ext_lookup d.ordered.1 d'.ordered.1 h)

/-- What stands under a key stands in an object. -/
theorem exists_get?_of_at? {j : Json} (h : d.at? scope key = some j) :
    ∃ fields, d.get? scope = some (.object fields) ∧ fields.lookup key = some j := by
  obtain ⟨fields, hfields, hj⟩ := Option.bind_eq_some_iff.mp h
  unfold fields? at hfields
  split at hfields
  · obtain rfl := Option.some.inj hfields
    cases hj
  · rename_i hget
    obtain rfl := Option.some.inj hfields
    exact ⟨_, hget, hj⟩
  · cases hfields

theorem at?_of_get? {fields : List Json.Member} (h : d.get? scope = some (.object fields))
    (key : String) : d.at? scope key = fields.lookup key := by
  rw [at?, fields?, h]
  rfl

theorem fields?_congr (h : d'.get? scope = d.get? scope) : d'.fields? scope = d.fields? scope := by
  rw [fields?, fields?, h]

/-- A scalar under a key is a leaf. -/
theorem flatKey_mem_of_at? (h : d.at? scope key = some (.scalar value)) :
    flatKey scope key ∈ d.leafPaths.map (".".intercalate ·) := by
  obtain ⟨fields, hget, hlookup⟩ := exists_get?_of_at? h
  have hfield : [key] ∈ Json.leafPaths (.object fields) :=
    mem_leafPathsOf_iff.mpr ⟨_, mem_of_lookup_eq_some hlookup, [], List.mem_singleton_self _, rfl⟩
  have hpath : [scope, key] ∈ d.leafPaths :=
    mem_leafPathsOf_iff.mpr ⟨_, mem_of_lookup_eq_some hget, [key], hfield, rfl⟩
  exact List.mem_map.mpr ⟨_, hpath, intercalate_pair scope key⟩

/-- The same sections can be written to. -/
def SameSections (d d' : Document) : Prop :=
  ∀ scope, (d'.fields? scope).isSome = (d.fields? scope).isSome

theorem isSome_put? (d : Document) (scope key : String) (value : Json.Scalar) :
    (d.put? scope key value).isSome = (d.fields? scope).isSome := by
  unfold put?
  split
  · rename_i h
    exact (congrArg Option.isSome h).symm
  · rename_i h
    exact (congrArg Option.isSome h).symm

theorem sameSections_of_put? (h : d.put? scope key value = some d') : d.SameSections d' := by
  obtain ⟨members, hmembers, hmembers', hget⟩ := of_put?_eq_some h
  intro other
  by_cases hother : other = scope
  · rw [hother, hmembers, hmembers']
    rfl
  · rw [fields?_congr (hget other hother)]

/-- What a document becomes when the keys of some fields are given texts: where
such a field stands there is the value that its text is taken for, and what
stands elsewhere stays. -/
structure Overridden (d : Document) (r : Registry) (texts : String → Option String)
    (d' : Document) : Prop where
  given : ∀ key text, texts key = some text → ∃ entry value, r.field? key = some entry
    ∧ entry.field.kind.coerce? text = some value
    ∧ d'.at? entry.scope entry.field.key = some (.scalar value)
  others : ∀ scope name, ¬r.Names texts scope name → d'.at? scope name = d.at? scope name
  members : ∀ scope, (∀ name, ¬r.Names texts scope name) → d'.get? scope = d.get? scope

namespace Overridden

open Registry (names_or_iff names_iff_of_field?)

variable {r : Registry} {texts texts' : String → Option String} {d₁ d₂ : Document}

theorem refl (d : Document) (r : Registry) : d.Overridden r (fun _ => none) d where
  given := by
    intro key text h
    cases h
  others _ _ _ := rfl
  members _ _ := rfl

theorem trans (h : d.Overridden r texts d₁) (h' : d₁.Overridden r texts' d₂) :
    d.Overridden r (fun key => (texts' key).or (texts key)) d₂ where
  given := by
    intro key text htext
    rcases Option.or_eq_some_iff.mp htext with htext | ⟨hnone, htext⟩
    · exact h'.given key text htext
    · obtain ⟨entry, value, hentry, hvalue, hat⟩ := h.given key text htext
      have hkept : ¬r.Names texts' entry.scope entry.field.key := by
        rw [names_iff_of_field? hentry, hnone]
        exact Bool.false_ne_true
      exact ⟨entry, value, hentry, hvalue, (h'.others _ _ hkept).trans hat⟩
  others := by
    intro scope name hnames
    rw [names_or_iff, not_or] at hnames
    rw [h'.others scope name hnames.1, h.others scope name hnames.2]
  members := by
    intro scope hnames
    simp only [names_or_iff, not_or] at hnames
    rw [h'.members scope fun name => (hnames name).1, h.members scope fun name => (hnames name).2]

theorem at?_eq (h₁ : d.Overridden r texts d₁) (h₂ : d.Overridden r texts d₂)
    (scope name : String) : d₁.at? scope name = d₂.at? scope name := by
  by_cases hnames : r.Names texts scope name
  · obtain ⟨key, entry, hsome, hentry, rfl, rfl⟩ := hnames
    obtain ⟨text, htext⟩ := Option.isSome_iff_exists.mp hsome
    obtain ⟨entry₁, value₁, hentry₁, hvalue₁, hat₁⟩ := h₁.given key text htext
    obtain ⟨entry₂, value₂, hentry₂, hvalue₂, hat₂⟩ := h₂.given key text htext
    obtain rfl := Option.some.inj (hentry.symm.trans hentry₁)
    obtain rfl := Option.some.inj (hentry.symm.trans hentry₂)
    obtain rfl := Option.some.inj (hvalue₁.symm.trans hvalue₂)
    exact hat₁.trans hat₂.symm
  · rw [h₁.others scope name hnames, h₂.others scope name hnames]

/-- Nothing about the document is left open. -/
theorem unique (h₁ : d.Overridden r texts d₁) (h₂ : d.Overridden r texts d₂) : d₁ = d₂ := by
  refine ext_get? fun scope => ?_
  by_cases hnames : ∃ name, r.Names texts scope name
  · obtain ⟨_, key, entry, hsome, hentry, rfl, -⟩ := hnames
    obtain ⟨text, htext⟩ := Option.isSome_iff_exists.mp hsome
    obtain ⟨entry₁, value, hentry₁, -, hat⟩ := h₁.given key text htext
    obtain rfl := Option.some.inj (hentry.symm.trans hentry₁)
    obtain ⟨fields₁, hfields₁, -⟩ := exists_get?_of_at? hat
    obtain ⟨fields₂, hfields₂, -⟩ := exists_get?_of_at? (h₁.at?_eq h₂ _ _ ▸ hat)
    have hordered₁ := Json.ordered_of_lookup d₁.ordered.2 hfields₁
    have hordered₂ := Json.ordered_of_lookup d₂.ordered.2 hfields₂
    have hsame : fields₁ = fields₂ := Ascending.ext_lookup hordered₁.1 hordered₂.1 fun name => by
      rw [← at?_of_get? hfields₁, ← at?_of_get? hfields₂, h₁.at?_eq h₂]
    rw [hfields₁, hfields₂, hsame]
  · have hnone : ∀ name, ¬r.Names texts scope name := not_exists.mp hnames
    rw [h₁.members scope hnone, h₂.members scope hnone]

end Overridden

end Document

namespace Source

open Assignment (lastText? lastText?_cons lastText?_singleton)

variable {s s' : Source} {r : Registry} {assignment : String} {assignments : List String}

/-! ## One override -/

/-- Whether an override is accepted, and if not, why. -/
def answer (s : Source) (r : Registry) (assignment : String) : Except LoadError Unit :=
  (s.override r assignment).map fun _ => ()

theorem answer_eq_ok_iff :
    s.answer r assignment = .ok () ↔ ∃ s', s.override r assignment = .ok s' := by
  rw [answer, map_eq_ok_iff]
  simp

theorem answer_eq_error_iff {e : LoadError} :
    s.answer r assignment = .error e ↔ s.override r assignment = .error e := by
  rw [answer, map_eq_error_iff]

theorem answer_congr (h : s.document.SameSections s'.document) (r : Registry)
    (assignment : String) : s'.answer r assignment = s.answer r assignment := by
  rcases override_cases r assignment with ⟨e, he⟩ | ⟨a, entry, value, -, -, -, hs⟩
  · rw [answer, answer, he, he]
  · have hput : (s'.document.put? entry.scope entry.field.key value).isSome
        = (s.document.put? entry.scope entry.field.key value).isSome := by
      rw [Document.isSome_put?, Document.isSome_put?, h]
    rw [answer, answer, hs, hs]
    cases hd : s.document.put? entry.scope entry.field.key value with
    | none =>
        rw [hd, Option.isSome_none, Option.isSome_eq_false_iff, Option.isNone_iff_eq_none] at hput
        rw [hput]
    | some d =>
        rw [hd, Option.isSome_some] at hput
        obtain ⟨d', hd'⟩ := Option.isSome_iff_exists.mp hput
        rw [hd']
        rfl

theorem sameSections_of_override (h : s.override r assignment = .ok s') :
    s.document.SameSections s'.document := by
  obtain ⟨a, entry, value, -, -, -, hput, -⟩ := of_override_eq_ok h
  exact Document.sameSections_of_put? hput

theorem overridden_of_override (h : s.override r assignment = .ok s') :
    s.document.Overridden r (lastText? [assignment]) s'.document := by
  obtain ⟨a, entry, value, ha, hentry, hvalue, hput, -⟩ := of_override_eq_ok h
  obtain ⟨members, hmembers, hmembers', hget⟩ := Document.of_put?_eq_some hput
  have htexts := lastText?_singleton ha
  have hnamed : r.Names (lastText? [assignment]) entry.scope entry.field.key := by
    rw [Registry.names_iff_of_field? hentry, htexts, if_pos rfl]
    rfl
  refine ⟨fun key text htext => ?_, fun scope name hnames => ?_, fun scope hnames => ?_⟩
  · rw [htexts] at htext
    split at htext
    · rename_i hkey
      obtain rfl := Option.some.inj htext
      refine ⟨entry, value, hkey ▸ hentry, hvalue, ?_⟩
      rw [Document.at?, hmembers', Option.bind_some, lookup_insert_self]
    · cases htext
  · by_cases hscope : scope = entry.scope
    · subst hscope
      have hname : name ≠ entry.field.key := by
        rintro rfl
        exact hnames hnamed
      rw [Document.at?, Document.at?, hmembers, hmembers', Option.bind_some, Option.bind_some,
        lookup_insert_of_ne hname]
    · rw [Document.at?, Document.at?, Document.fields?_congr (hget scope hscope)]
  · have hscope : scope ≠ entry.scope := by
      rintro rfl
      exact hnames _ hnamed
    exact hget scope hscope

/-! ## Many -/

theorem overrideAll_cons_eq_ok_iff :
    s.overrideAll r (assignment :: assignments) = .ok s' ↔
      ∃ s₁, s.override r assignment = .ok s₁ ∧ s₁.overrideAll r assignments = .ok s' := by
  rw [overrideAll, List.foldlM_cons]
  exact Outcome.bind_eq_ok_iff

theorem sameSections_of_overrideAll (h : s.overrideAll r assignments = .ok s') :
    s.document.SameSections s'.document := by
  induction assignments generalizing s with
  | nil =>
      obtain rfl := Except.ok.inj h
      exact fun _ => rfl
  | cons assignment rest ih =>
      obtain ⟨s₁, hfirst, hrest⟩ := overrideAll_cons_eq_ok_iff.mp h
      exact fun scope => (ih hrest scope).trans (sameSections_of_override hfirst scope)

/-- Each override is answered as if it were the only one: the source that it meets
is another one, but has the same sections. -/
theorem map_overrideAll {s₀ : Source} (h : s₀.document.SameSections s.document)
    (r : Registry) (assignments : List String) :
    (s.overrideAll r assignments).map (fun _ => ()) = forM assignments (s₀.answer r) := by
  induction assignments generalizing s with
  | nil => rfl
  | cons assignment rest ih =>
      rw [overrideAll, List.foldlM_cons, List.forM_cons, ← answer_congr h, answer]
      cases hs : s.override r assignment with
      | error e => rfl
      | ok s₁ => exact ih fun scope => (sameSections_of_override hs scope).trans (h scope)

theorem overridden_overrideAll (h : s.overrideAll r assignments = .ok s') :
    s.document.Overridden r (lastText? assignments) s'.document := by
  induction assignments generalizing s with
  | nil =>
      obtain rfl := Except.ok.inj h
      exact .refl s.document r
  | cons assignment rest ih =>
      obtain ⟨s₁, hfirst, hrest⟩ := overrideAll_cons_eq_ok_iff.mp h
      have htexts : lastText? (assignment :: rest)
          = fun key => (lastText? rest key).or (lastText? [assignment] key) :=
        funext (lastText?_cons assignment rest)
      rw [htexts]
      exact (overridden_of_override hfirst).trans (ih hrest)

theorem exists_overridden_eq (h : s.overrideAll r assignments = .ok s') :
    ∃ new, s'.overridden = s.overridden ++ new
      ∧ ∀ key ∈ new, (lastText? assignments key).isSome := by
  induction assignments generalizing s with
  | nil =>
      obtain rfl := Except.ok.inj h
      exact ⟨[], (List.append_nil _).symm, nofun⟩
  | cons assignment rest ih =>
      obtain ⟨s₁, hfirst, hrest⟩ := overrideAll_cons_eq_ok_iff.mp h
      obtain ⟨a, -, -, ha, -, -, -, new, hnew, hkeys⟩ := of_override_eq_ok hfirst
      obtain ⟨new', hnew', hkeys'⟩ := ih hrest
      refine ⟨new ++ new', by rw [hnew', hnew, List.append_assoc], fun key hkey => ?_⟩
      rw [lastText?_cons, Option.isSome_or, Bool.or_eq_true]
      rcases List.mem_append.mp hkey with hkey | hkey
      · rw [lastText?_singleton ha, if_pos (hkeys key hkey).symm]
        exact .inr rfl
      · exact .inl (hkeys' key hkey)

/-- The keys that were overridden have leaves, so that only those overridden
before can be without one. -/
theorem suppliedKeys_overrideAll (h : s.overrideAll r assignments = .ok s') :
    s'.suppliedKeys = s'.leafKeys ++ s.overridden.filter fun key => key ∉ s'.leafKeys := by
  obtain ⟨new, hnew, hkeys⟩ := exists_overridden_eq h
  have hleaves : ∀ key ∈ new, key ∈ s'.leafKeys := by
    intro key hkey
    obtain ⟨text, htext⟩ := Option.isSome_iff_exists.mp (hkeys key hkey)
    obtain ⟨entry, value, hentry, -, hat⟩ := (overridden_overrideAll h).given key text htext
    rw [(Registry.of_field?_eq_some hentry).1]
    exact Document.flatKey_mem_of_at? hat
  have hnone : new.filter (fun key => key ∉ s'.leafKeys) = [] := by
    rw [List.filter_eq_nil_iff]
    intro key hkey
    simp [hleaves key hkey]
  rw [suppliedKeys, hnew, List.filter_append, hnone, List.append_nil]

/-- A list of overrides is accepted if the source accepts each of them, and is
else refused for the first that it does not accept.  Among overrides of one key
the last one counts, and nothing else about the order does. -/
theorem overrideAll_lastWins (s : Source) (r : Registry) (assignments : List String) :
    ((∃ s', s.overrideAll r assignments = .ok s') ↔
        ∀ a ∈ assignments, ∃ s', s.override r a = .ok s')
    ∧ (∀ e, s.overrideAll r assignments = .error e ↔
        ∃ before a after, assignments = before ++ a :: after
          ∧ (∀ b ∈ before, ∃ s', s.override r b = .ok s') ∧ s.override r a = .error e)
    ∧ (∀ s', s.overrideAll r assignments = .ok s' →
        ∀ d, s.document.Overridden r (lastText? assignments) d ↔ d = s'.document)
    ∧ ∀ assignments' s' s'', s.overrideAll r assignments = .ok s' →
        s.overrideAll r assignments' = .ok s'' →
        (∀ key, lastText? assignments key = lastText? assignments' key) →
        s'.document = s''.document ∧ s'.suppliedKeys = s''.suppliedKeys
          ∧ s'.toSettings = s''.toSettings := by
  have hanswers : (s.overrideAll r assignments).map (fun _ => ()) = forM assignments (s.answer r) :=
    map_overrideAll (fun _ => rfl) r assignments
  refine ⟨?_, fun e => ?_, fun s' hs' d => ?_, fun assignments' s' s'' hs' hs'' htexts => ?_⟩
  · simp only [← answer_eq_ok_iff]
    rw [← forM_eq_ok_iff, ← hanswers, map_eq_ok_iff]
    simp
  · simp only [← answer_eq_ok_iff, ← answer_eq_error_iff]
    rw [← forM_eq_error_iff, ← hanswers]
    cases s.overrideAll r assignments <;> simp [Except.map]
  · have hoverridden := overridden_overrideAll hs'
    constructor
    · intro hd
      exact hd.unique hoverridden
    · rintro rfl
      exact hoverridden
  · have hdocument : s'.document = s''.document := by
      refine (overridden_overrideAll hs').unique ?_
      rw [funext htexts]
      exact overridden_overrideAll hs''
    have hleaves : s'.leafKeys = s''.leafKeys := by rw [leafKeys, leafKeys, hdocument]
    refine ⟨hdocument, ?_, ?_⟩
    · rw [suppliedKeys_overrideAll hs', suppliedKeys_overrideAll hs'', hleaves]
    · rw [toSettings, toSettings, hdocument]

theorem overrideAll_lastWins_api :
    let src : Source := ⟨.ofMembers [("base", .object [("api", .ofString "x")])], []⟩
    let assignments := ["base.api=y", "log.level=info", " base.api =z"]
    let assignments' := ["log.level=info", "base.api=z"]
    ∃ s' s'', src.overrideAll .indexer assignments = .ok s'
      ∧ src.overrideAll .indexer assignments' = .ok s''
      ∧ s'.overridden ≠ s''.overridden
      ∧ s'.document = s''.document ∧ s'.suppliedKeys = s''.suppliedKeys
      ∧ s'.toSettings = s''.toSettings := by
  intro src assignments assignments'
  have hs' : src.overrideAll .indexer assignments
      = .ok ⟨.ofMembers [("base", .object [("api", .ofString "z")]),
          ("log", .object [("level", .ofString "info")])], ["base.api", "log.level"]⟩ := rfl
  have hs'' : src.overrideAll .indexer assignments'
      = .ok ⟨.ofMembers [("base", .object [("api", .ofString "z")]),
          ("log", .object [("level", .ofString "info")])], ["log.level", "base.api"]⟩ := rfl
  have htexts : ∀ key, lastText? assignments key = lastText? assignments' key := by
    intro key
    have hparsed : assignments.filterMap Assignment.ofText?
        = [⟨"base.api", "y"⟩, ⟨"log.level", "info"⟩, ⟨"base.api", "z"⟩] := rfl
    have hparsed' : assignments'.filterMap Assignment.ofText?
        = [⟨"log.level", "info"⟩, ⟨"base.api", "z"⟩] := rfl
    rw [lastText?, lastText?, hparsed, hparsed']
    by_cases hapi : "base.api" = key <;> by_cases hlevel : "log.level" = key <;>
      simp [List.findRev?, hapi, hlevel]
  exact ⟨_, _, hs', hs'', by decide,
    (overrideAll_lastWins src .indexer assignments).2.2.2 _ _ _ hs' hs'' htexts⟩

end Source

end IndexerSettings
