import IndexerSettings.Proofs.Source.Loading

/-!
# The first value that does not fit

A document can be wrong in many places, and one of them is reported.  A document
and its sections are read member by member, which is in the order of names, but
what counts are the places where something is looked for (`Settings.Place`): each
section as a whole, and then its fields by their keys, those that are taken into
the section behind its own.  Looking up the places in this order comes to the same
as reading the members (`Settings.map_ofDocument`), so it is the first of them with
a value that does not fit that is reported, in words that are about this value
alone (`Source.toSettings_firstMisfit`).
-/

namespace IndexerSettings

open Json (Member Ascending lookup_eq_some_of_mem mem_of_lookup_eq_some)
open Outcome (forM_flatMap forM_eq_ok_iff forM_eq_error_iff forM_eq_error_iff_of_ascending
  eq_of_eq_error_iff map_foldlM_eq_forM map_eq_ok_iff map_eq_error_iff mapError_eq_error_iff)

/-! ## Members and what is looked up -/

namespace Json

variable {α ε : Type} {key : α → String} {known ordered : List α} {members : List Member}
  {check : α → Json → Except ε Unit} {a : α} {m : Member}

/-- Checks a member as what is known by its name, if anything is. -/
def accept (key : α → String) (known : List α) (check : α → Json → Except ε Unit) (m : Member) :
    Except ε Unit :=
  (known.find? (key · == m.1)).elim (.ok ()) fun a => check a m.2

theorem accept_of_mem (hnd : (known.map key).Nodup) (ha : a ∈ known) (hkey : key a = m.1) :
    accept key known check m = check a m.2 := by
  rw [accept, ← hkey, find?_of_nodup_keys hnd ha]
  rfl

theorem accept_of_notMem (h : m.1 ∉ known.map key) : accept key known check m = .ok () := by
  rw [accept, find?_of_notMem_keys h]
  rfl

/-- Checking the members of an object in their order is looking up what is known in
the order of its keys. -/
theorem forM_accept (hordered : ordered.Pairwise fun a b => key a < key b)
    (hperm : ordered.Perm known) (hmembers : Ascending members) :
    forM members (accept key known check)
      = forM ordered fun a => (members.lookup (key a)).elim (.ok ()) (check a) := by
  have hnd : (known.map key).Nodup := by
    refine (hperm.map key).nodup_iff.mp (List.pairwise_map.mpr (hordered.imp fun hlt heq => ?_))
    exact Std.lt_irrefl (heq ▸ hlt)
  have hlookup : ∀ m ∈ members, members.lookup m.1 = some m.2 :=
    fun m hm => lookup_eq_some_of_mem hmembers.nodup hm
  refine eq_of_eq_error_iff fun e => ?_
  rw [forM_eq_error_iff_of_ascending (List.pairwise_map.mp hmembers),
    forM_eq_error_iff_of_ascending hordered]
  constructor
  · rintro ⟨m, hm, hfails, hbefore⟩
    by_cases hmem : m.1 ∈ known.map key
    · obtain ⟨a, ha, hkey⟩ := List.mem_map.mp hmem
      rw [accept_of_mem hnd ha hkey] at hfails
      refine ⟨a, hperm.mem_iff.mpr ha, by rwa [hkey, hlookup m hm], fun b hb hlt => ?_⟩
      cases hj : members.lookup (key b) with
      | none => rfl
      | some j =>
          have hpasses := hbefore _ (mem_of_lookup_eq_some hj) (hkey ▸ hlt)
          rwa [accept_of_mem hnd (hperm.mem_iff.mp hb) rfl] at hpasses
    · rw [accept_of_notMem hmem] at hfails
      cases hfails
  · rintro ⟨a, ha, hfails, hbefore⟩
    cases hj : members.lookup (key a) with
    | none =>
        rw [hj] at hfails
        cases hfails
    | some j =>
        rw [hj] at hfails
        refine ⟨(key a, j), mem_of_lookup_eq_some hj, ?_, fun m hm hlt => ?_⟩
        · rwa [accept_of_mem hnd (hperm.mem_iff.mp ha) rfl]
        · by_cases hmem : m.1 ∈ known.map key
          · obtain ⟨b, hb, hkey⟩ := List.mem_map.mp hmem
            have hpasses := hbefore b (hperm.mem_iff.mpr hb) (hkey ▸ hlt)
            rw [hkey, hlookup m hm] at hpasses
            rwa [accept_of_mem hnd hb hkey]
          · exact accept_of_notMem hmem

end Json

/-! ## Fields in order -/

namespace Field

variable {fields : List Field}

/-- Fields in the order of their keys. -/
def byKey (fields : List Field) : List Field :=
  fields.insertionSort fun f g => f.key ≤ g.key

theorem perm_byKey (fields : List Field) : (byKey fields).Perm fields :=
  List.perm_insertionSort _ fields

theorem pairwise_byKey (h : (fields.map key).Nodup) :
    (byKey fields).Pairwise fun f g => f.key < g.key := by
  have : Std.Total fun f g : Field => f.key ≤ g.key := ⟨fun f g => Std.le_total⟩
  have : IsTrans Field fun f g => f.key ≤ g.key := ⟨fun f g i => Std.le_trans⟩
  have hle := List.pairwise_insertionSort (fun f g : Field => f.key ≤ g.key) fields
  have hne : ((byKey fields).map key).Nodup := ((perm_byKey fields).map key).nodup_iff.mpr h
  exact hle.and (List.pairwise_map.mp hne) |>.imp fun ⟨hle, hne⟩ => Std.lt_of_le_of_ne hle hne

end Field

namespace FieldKind

variable {kind : FieldKind} {j : Json} {m : Mismatch}

/-- Looks whether a value is one of a kind. -/
def accept (kind : FieldKind) (j : Json) : Except Mismatch Unit :=
  (kind.read j).map fun _ => ()

theorem accept_eq_ok_iff : kind.accept j = .ok () ↔ kind.Fits j := by
  rw [accept, map_eq_ok_iff, fits_iff, read]
  cases kind.valueOf? j <;> simp

theorem accept_eq_error_iff : kind.accept j = .error m ↔ ¬kind.Fits j ∧ m = kind.mismatch j := by
  rw [accept, map_eq_error_iff, fits_iff, read]
  cases kind.valueOf? j <;> simp [eq_comm]

end FieldKind

namespace FieldValues

variable {fields : List Field} {members : List Member}

/-- What a member does to values has no influence on whether it fits. -/
theorem map_assign (fields : List Field) (vals : FieldValues) (m : Member) :
    (assign fields vals m).map (fun _ => ())
      = Json.accept Field.key fields (fun f => f.kind.accept) m := by
  rw [assign, Json.accept]
  cases fields.find? (·.key == m.1) with
  | none => rfl
  | some f => exact Outcome.map_map _ _

theorem map_foldlM_assign (hnd : (fields.map Field.key).Nodup) (h : Ascending members)
    (vals : FieldValues) :
    (members.foldlM (assign fields) vals).map (fun _ => ())
      = forM (Field.byKey fields) fun f =>
          (members.lookup f.key).elim (.ok ()) f.kind.accept := by
  rw [map_foldlM_eq_forM fun m _ vals => map_assign fields vals m]
  exact Json.forM_accept (Field.pairwise_byKey hnd) (Field.perm_byKey fields) h

end FieldValues

/-! ## Places -/

/-- A mismatch is about a value and what was wanted in its place, and about nothing
else: it holds the value, or of an integer that is out of range the number. -/
def Mismatch.Names (m : Mismatch) (j : Json) (w : Wanted) : Prop :=
  m = .wrongKind j w
  ∨ ∃ n h, j = .scalar (.number (.integer n h)) ∧ m = .outOfRange n w

theorem FieldKind.mismatch_names (kind : FieldKind) (j : Json) :
    (kind.mismatch j).Names j kind.wanted := by
  unfold mismatch
  split
  · exact .inr ⟨_, _, rfl, rfl⟩
  · exact .inr ⟨_, _, rfl, rfl⟩
  · exact .inl rfl

namespace Settings

namespace Part

/-- The sections in the order of their scopes. -/
def inOrder : List Part := [base, database, flags, log, probe]

theorem pairwise_inOrder : inOrder.Pairwise fun p q => p.scope < q.scope := by
  decide

/-- How a section is called in messages. -/
def title : Part → String
  | database => "Database"
  | log => "Log"
  | probe => "Probe"
  | base => "Base"
  | flags => "Flags"

/-- The fields of a section as they are looked for: by their keys, and those of each
section taken into it behind the others. -/
def fieldsInOrder (p : Part) : List Field := p.phases.flatMap Field.byKey

example : base.fieldsInOrder.map Field.key = [
    "api", "block-event-filter-file", "block-input-file", "block-timer", "dry", "end-block",
    "exit-when-caught-up", "index-block-events", "index-transactions",
    "reattempt-failed-blocks", "reindex", "reindex-message-type", "rpc-workers",
    "start-block", "wait-for-chain", "wait-for-chain-delay",
    "throttling", "request-retry-attempts", "request-retry-max-wait"] := by decide

theorem nodup_keys_of_mem_phases {p : Part} {fields : List Field} (h : fields ∈ p.phases) :
    (fields.map Field.key).Nodup := by
  have hnd := p.nodup_keys
  rw [← flatten_phases] at hnd
  exact hnd.sublist ((List.sublist_flatten_of_mem h).map Field.key)

end Part

/-- Where something is looked for in a document: a section, or a field in one. -/
inductive Place
  | whole (p : Part)
  | field (p : Part) (f : Field)
  deriving DecidableEq

namespace Place

/-- The places of one section, itself before its fields. -/
def ofPart (p : Part) : List Place := whole p :: p.fieldsInOrder.map (field p)

/-- All places in their order. -/
def all : List Place := Part.inOrder.flatMap ofPart

/-- What a document has in a place. -/
def value? (d : Document) : Place → Option Json
  | whole p => d.get? p.scope
  | field p f => d.at? p.scope f.key

/-- A value is one for a place. -/
def Fits : Place → Json → Prop
  | whole _, j => ∃ members, j = .object members
  | field _ f, j => f.kind.Fits j

def wanted : Place → Wanted
  | whole p => .settings p.title
  | field _ f => f.kind.wanted

/-- What is said of a value that is none for a place. -/
def complaint : Place → Json → Mismatch
  | whole p, j => .wrongKind j (.settings p.title)
  | field _ f, j => f.kind.mismatch j

theorem complaint_names (q : Place) (j : Json) : (q.complaint j).Names j q.wanted := by
  cases q with
  | whole p => exact .inl rfl
  | field p f => exact f.kind.mismatch_names j

/-- Looks at a value for a place. -/
def accept : Place → Json → Except Mismatch Unit
  | whole _, .object _ => .ok ()
  | whole p, j => .error (.wrongKind j (.settings p.title))
  | field _ f, j => f.kind.accept j

/-- Looks at what a document has in a place. -/
def check (d : Document) (q : Place) : Except Mismatch Unit :=
  (q.value? d).elim (.ok ()) q.accept

variable {d : Document} {q : Place} {j : Json} {m : Mismatch}

theorem accept_eq_ok_iff : q.accept j = .ok () ↔ q.Fits j := by
  cases q with
  | whole p => cases j <;> simp [accept, Fits]
  | field p f => exact FieldKind.accept_eq_ok_iff

theorem accept_eq_error_iff : q.accept j = .error m ↔ ¬q.Fits j ∧ m = q.complaint j := by
  cases q with
  | whole p => cases j <;> simp [accept, Fits, complaint, eq_comm]
  | field p f => exact FieldKind.accept_eq_error_iff

theorem check_eq_ok_iff : q.check d = .ok () ↔ ∀ j, q.value? d = some j → q.Fits j := by
  rw [check]
  cases q.value? d with
  | none => simp
  | some j => simp [accept_eq_ok_iff]

theorem check_eq_error_iff :
    q.check d = .error m ↔ ∃ j, q.value? d = some j ∧ ¬q.Fits j ∧ m = q.complaint j := by
  rw [check]
  cases q.value? d with
  | none => simp
  | some j => simp [accept_eq_error_iff]

end Place

/-! ## Sections -/

namespace Part

variable {p : Part} {members : List Member} {d : Document}

/-- A section that is an object is read field by field. -/
theorem map_ofJson_object (p : Part) (h : Ascending members) :
    (p.ofJson (.object members)).map (fun _ => ())
      = forM p.fieldsInOrder fun f => (members.lookup f.key).elim (.ok ()) f.kind.accept := by
  have hvalues := congrArg (Except.map fun _ => ()) (p.map_values_ofJson members)
  rw [Outcome.map_map] at hvalues
  rw [hvalues, fieldsInOrder, forM_flatMap]
  exact map_foldlM_eq_forM (fun fields hfields vals =>
    FieldValues.map_foldlM_assign (nodup_keys_of_mem_phases hfields) h vals) _

theorem ofJson_scalar (p : Part) (s : Json.Scalar) :
    p.ofJson (.scalar s) = .error (.wrongKind (.scalar s) (.settings p.title)) := by
  cases p <;> rfl

/-- The fields of a section that is an object, or absent. -/
theorem forM_check_fields (h : d.fields? p.scope = some members) :
    forM (p.fieldsInOrder.map (Place.field p)) (Place.check d)
      = (p.ofJson (.object members)).map fun _ => () := by
  rw [map_ofJson_object p (Document.ordered_of_fields? h).1, List.forM_map]
  refine congrArg (forM p.fieldsInOrder) (funext fun f => ?_)
  rw [Place.check, Place.value?, at?_scope h]
  rfl

/-- A section that is no array is read place by place. -/
theorem forM_check (harray : ∀ items, d.get? p.scope ≠ some (.array items)) :
    forM (Place.ofPart p) (Place.check d)
      = (d.get? p.scope).elim (.ok ()) fun j => (p.ofJson j).map fun _ => () := by
  rw [Place.ofPart, List.forM_cons, Place.check, Place.value?]
  cases hget : d.get? p.scope with
  | none =>
      have hfields : d.fields? p.scope = some [] := by rw [Document.fields?, hget]
      have hempty : (p.ofJson (.object [])).map (fun _ => ()) = .ok () := by cases p <;> rfl
      exact (forM_check_fields hfields).trans hempty
  | some j =>
      cases j with
      | scalar s =>
          rw [Option.elim_some, Option.elim_some, ofJson_scalar]
          rfl
      | array items => exact absurd hget (harray items)
      | object members =>
          have hfields : d.fields? p.scope = some members := by rw [Document.fields?, hget]
          exact forM_check_fields hfields

/-- What sections have been read has no influence on what is read of the next. -/
theorem map_assign_bindings (s : Settings) (m : Member) :
    (Binding.assign bindings s m).map (fun _ => ())
      = Json.accept scope inOrder (fun p j => (p.ofJson j).map fun _ => ()) m := by
  rcases assign_bindings s m with ⟨p, hp, hs⟩ | ⟨hne, hs⟩
  · have hmem : p ∈ inOrder := by cases p <;> decide
    rw [hs, Outcome.map_map, Json.accept_of_mem (by decide) hmem hp.symm]
  · rw [hs, Json.accept_of_notMem (notMem_map_scope hne)]
    rfl

end Part

end Settings

/-! ## Documents -/

/-- No section of a document is an array. -/
def Document.HasNoArrays (d : Document) : Prop :=
  ∀ p : Settings.Part, ∀ items, d.get? p.scope ≠ some (.array items)

/-- A document is read place by place. -/
theorem Settings.map_ofDocument {d : Document} (h : d.HasNoArrays) :
    (ofDocument d).map (fun _ => ()) = forM Place.all (Place.check d) := by
  rw [ofDocument, Binding.assignAll, map_foldlM_eq_forM fun m _ s => Part.map_assign_bindings s m,
    Json.forM_accept Part.pairwise_inOrder (.refl _) d.ordered.1, Place.all, forM_flatMap]
  refine congrArg (forM Part.inOrder) (funext fun p => ?_)
  exact (Part.forM_check (h p)).symm

open Settings (Part Place)

namespace Document

/-- The first place of a document with a value that does not fit, and this value. -/
def FirstMisfit (d : Document) (q : Place) (j : Json) : Prop :=
  ∃ before after, Place.all = before ++ q :: after
    ∧ (∀ b ∈ before, ∀ i, b.value? d = some i → b.Fits i)
    ∧ q.value? d = some j ∧ ¬q.Fits j

/-- A document is refused for the first value in it that does not fit. -/
theorem ofDocument_eq_error_iff {d : Document} (h : d.HasNoArrays) {m : Mismatch} :
    Settings.ofDocument d = .error m ↔ ∃ q j, d.FirstMisfit q j ∧ m = q.complaint j := by
  rw [← map_eq_error_iff (f := fun _ => ()), Settings.map_ofDocument h, forM_eq_error_iff]
  constructor
  · rintro ⟨before, q, after, hall, hbefore, hq⟩
    obtain ⟨j, hj, hmisfit, rfl⟩ := Place.check_eq_error_iff.mp hq
    exact ⟨q, j, ⟨before, after, hall, fun b hb => Place.check_eq_ok_iff.mp (hbefore b hb), hj,
      hmisfit⟩, rfl⟩
  · rintro ⟨q, j, ⟨before, after, hall, hbefore, hj, hmisfit⟩, rfl⟩
    exact ⟨before, q, after, hall, fun b hb => Place.check_eq_ok_iff.mpr (hbefore b hb),
      Place.check_eq_error_iff.mpr ⟨j, hj, hmisfit, rfl⟩⟩

end Document

namespace Source

variable {src : Source}

theorem toSettings_eq_error_iff (h : src.document.HasNoArrays) {e : LoadError} :
    src.toSettings = .error e ↔
      ∃ q j, src.document.FirstMisfit q j ∧ e = .mismatch (q.complaint j) := by
  rw [toSettings_eq, mapError_eq_error_iff]
  simp only [Document.ofDocument_eq_error_iff h]
  constructor
  · rintro ⟨_, ⟨q, j, hfirst, rfl⟩, rfl⟩
    exact ⟨q, j, hfirst, rfl⟩
  · rintro ⟨q, j, hfirst, rfl⟩
    exact ⟨_, ⟨q, j, hfirst, rfl⟩, rfl⟩

/-- A source whose sections are no arrays is refused for the first value in its
document that does not fit, with what is to be said of this value in its place.
Another source for which this is the first one too is refused in the same way,
whatever else is in its document. -/
theorem toSettings_firstMisfit (h : src.document.HasNoArrays) :
    (∀ e, src.toSettings = .error e ↔
      ∃ q j, src.document.FirstMisfit q j ∧ e = .mismatch (q.complaint j))
    ∧ ∀ q j, src.document.FirstMisfit q j → (q.complaint j).Names j q.wanted
      ∧ ∀ other : Source, other.document.HasNoArrays → other.document.FirstMisfit q j →
          other.toSettings = src.toSettings := by
  refine ⟨fun e => toSettings_eq_error_iff h, fun q j hfirst => ⟨q.complaint_names j, ?_⟩⟩
  intro other hother hsame
  rw [(toSettings_eq_error_iff h).mpr ⟨q, j, hfirst, rfl⟩,
    (toSettings_eq_error_iff hother).mpr ⟨q, j, hsame, rfl⟩]

/-- Three values that do not fit.  The pause has the lesser key, but is looked for
behind the fields of `base` itself, and so one of these is reported, in the words in
which it is where nothing else is wrong. -/
theorem toSettings_firstMisfit_base :
    let one : Json := .ofCount 1
    let src : Source := ⟨.ofMembers [("log", .ofString "debug"),
      ("base", .object [("wait-for-chain", one), ("throttling", .ofString "fast")])], []⟩
    let other : Source := ⟨.ofMembers [("base", .object [("wait-for-chain", one)])], []⟩
    let q : Place := .field .base ⟨"wait-for-chain", .bool, "wait for the node to sync"⟩
    src.document.FirstMisfit q one
      ∧ src.toSettings = .error (.mismatch (.wrongKind one .boolean))
      ∧ other.toSettings = src.toSettings := by
  intro one src other q
  have harrays : src.document.HasNoArrays := by
    intro p items hget
    cases p <;> cases hget
  have harrays' : other.document.HasNoArrays := by
    intro p items hget
    cases p <;> cases hget
  have hrefused : q.accept one = .error (.wrongKind one .boolean) := rfl
  have hmisfit : ¬q.Fits one := (Place.accept_eq_error_iff.mp hrefused).1
  have hall : Place.all = Place.all.take 15 ++ q :: Place.all.drop 16 := by decide +kernel
  have hbefore : ∀ b ∈ Place.all.take 15,
      b.check src.document = .ok () ∧ b.check other.document = .ok () := by decide +kernel
  have hfirst : src.document.FirstMisfit q one :=
    ⟨_, _, hall, fun b hb => Place.check_eq_ok_iff.mp (hbefore b hb).1, rfl, hmisfit⟩
  have hfirst' : other.document.FirstMisfit q one :=
    ⟨_, _, hall, fun b hb => Place.check_eq_ok_iff.mp (hbefore b hb).2, rfl, hmisfit⟩
  obtain ⟨herror, hothers⟩ := toSettings_firstMisfit harrays
  exact ⟨hfirst, (herror _).mpr ⟨q, one, hfirst, rfl⟩,
    (hothers q one hfirst).2 other harrays' hfirst'⟩

end Source

end IndexerSettings
