import IndexerSettings.Proofs.Settings.Masking
import IndexerSettings.Proofs.Source.LastWins

/-!
# Sources with the password masked

Overrides follow the view in which passwords are masked: what is seen of a source
after an override is what the override makes of what is seen of it before
(`Source.assign_masked`).  The text of a password is taken as it is, so no refusal
repeats it.

Documents that differ in the password alone, and overrides that differ in the text
of a password, therefore lead to sources that are the same in that view.
-/

namespace IndexerSettings

open Json (Member mapValues lookup_mapValues mapValues_insert insert_of_lookup maskField
  maskSection)

/-! ## Values put into documents -/

namespace Document

variable {d d' : Document} {scope key : String}

/-- What is seen of a scalar that is put under a key. -/
def maskScalar (scope key : String) (value : Json.Scalar) : Json.Scalar :=
  if scope = "database" then value.masked key else value

def maskFields (scope : String) (fields : List Member) : List Member :=
  if scope = "database" then mapValues maskField fields else fields

theorem maskSection_object (scope : String) (fields : List Member) :
    maskSection scope (.object fields) = .object (maskFields scope fields) := by
  rw [maskSection, maskFields]
  split <;> rfl

theorem maskFields_insert (scope key : String) (value : Json.Scalar) (fields : List Member) :
    maskFields scope (Json.insert key (.scalar value) fields)
      = Json.insert key (.scalar (maskScalar scope key value)) (maskFields scope fields) := by
  simp only [maskFields, maskScalar]
  split
  · exact mapValues_insert maskField key (.scalar value) fields
  · rfl

theorem maskScalar_of_ne (h : flatKey scope key ≠ "database.password") (value : Json.Scalar) :
    maskScalar scope key value = value := by
  rw [maskScalar]
  split
  · rename_i hscope
    have hkey : key ≠ "password" := by
      rintro rfl
      exact h (hscope ▸ rfl)
    cases value with
    | string text => rw [Json.Scalar.masked, if_neg hkey]
    | _ => rfl
  · rfl

theorem fields?_masked (d : Document) (scope : String) :
    d.masked.fields? scope = (d.fields? scope).map (maskFields scope) := by
  have hget : d.masked.get? scope = (d.get? scope).map (maskSection scope) :=
    lookup_mapValues maskSection scope d.members
  rw [fields?, fields?, hget]
  cases d.get? scope with
  | none =>
      show some [] = some (maskFields scope [])
      rw [maskFields]
      split <;> rfl
  | some j =>
      rw [Option.map_some]
      cases j with
      | object fields => rw [maskSection_object, Option.map_some]
      | _ =>
          rw [maskSection]
          by_cases hscope : scope = "database"
          · rw [if_pos hscope]
            rfl
          · rw [if_neg hscope]
            rfl

theorem map_members_put? (d : Document) (scope key : String) (value : Json.Scalar) :
    (d.put? scope key value).map members
      = (d.fields? scope).map fun fields =>
        Json.insert scope (.object (Json.insert key (.scalar value) fields)) d.members := by
  unfold put?
  split
  · rename_i h
    simp [h]
  · rename_i fields h
    simp [h]

/-- A key is given the value that it has. -/
theorem put?_of_at? {value : Json.Scalar} (h : d.at? scope key = some (.scalar value)) :
    d.put? scope key value = some d := by
  obtain ⟨fields, hget, hlookup⟩ := exists_get?_of_at? h
  have hfields : d.fields? scope = some fields := by rw [fields?, hget]
  have hordered := ordered_of_fields? hfields
  refine Option.map_injective (fun _ _ => ext_members) ?_
  rw [map_members_put?, hfields, Option.map_some, Option.map_some,
    insert_of_lookup hordered.1 hlookup, insert_of_lookup d.ordered.1 hget]

theorem put?_masked (d : Document) (scope key : String) (value : Json.Scalar) :
    d.masked.put? scope key (maskScalar scope key value)
      = (d.put? scope key value).map masked := by
  refine Option.map_injective (fun _ _ => ext_members) ?_
  have hmembers : ((d.put? scope key value).map masked).map members
      = ((d.put? scope key value).map members).map (mapValues maskSection) := by
    rw [Option.map_map, Option.map_map]
    rfl
  rw [hmembers, map_members_put?, map_members_put?, fields?_masked, Option.map_map,
    Option.map_map]
  refine congrArg (Option.map · (d.fields? scope)) (funext fun fields => ?_)
  show Json.insert scope (.object (Json.insert key (.scalar (maskScalar scope key value))
      (maskFields scope fields))) d.masked.members = mapValues maskSection _
  rw [mapValues_insert, maskSection_object, maskFields_insert]
  rfl

/-- Documents that differ in the password alone look the same. -/
theorem masked_eq_of_put? {password password' : String}
    (h : d.at? "database" "password" = some (.ofString password)) (hset : IsSet password)
    (hput : d.put? "database" "password" (.string password') = some d')
    (hset' : IsSet password') : d'.masked = d.masked := by
  have hmask : ∀ {s : String}, IsSet s →
      maskScalar "database" "password" (.string s) = .string redactedPassword := by
    intro s hs
    exact congrArg Json.Scalar.string (maskText_of_isSet hs)
  have hkept := put?_masked d "database" "password" (.string password)
  have hchanged := put?_masked d "database" "password" (.string password')
  rw [put?_of_at? h, hmask hset] at hkept
  rw [hput, hmask hset'] at hchanged
  exact Option.some.inj (hchanged.symm.trans hkept)

end Document

/-! ## Overrides -/

/-- An override with the password masked, if it is for that. -/
def Assignment.masked (a : Assignment) : Assignment :=
  if a.key = "database.password" then { a with value := maskText a.value } else a

theorem Assignment.key_masked (a : Assignment) : a.masked.key = a.key := by
  rw [masked]
  split <;> rfl

namespace Source

open Document (maskScalar maskScalar_of_ne put?_masked)

def masked (s : Source) : Source := { s with document := s.document.masked }

theorem suppliedKeys_masked (s : Source) : s.masked.suppliedKeys = s.suppliedKeys := by
  have hleaves : s.masked.leafKeys = s.leafKeys :=
    congrArg (List.map _) s.document.leafPaths_masked
  rw [suppliedKeys, suppliedKeys, hleaves]
  rfl

theorem toSettings_masked (s : Source) : s.masked.toSettings = s.toSettings.map .masked := by
  have hread : Settings.ofDocument s.masked.document
      = (Settings.ofDocument s.document).map .masked := Settings.ofDocument_masked s.document
  rw [toSettings, toSettings, hread]
  cases Settings.ofDocument s.document <;> rfl

/-- An override whose text is taken for a value, and of which that is seen that
is put into the document. -/
theorem assign_masked_of_coerce? (s : Source) {a : Assignment} {entry : FieldEntry}
    {value : Json.Scalar} (hentry : Registry.indexer.field? a.key = some entry)
    (hvalue : entry.field.kind.coerce? a.value = some value)
    (hmasked : entry.field.kind.coerce? a.masked.value
      = some (maskScalar entry.scope entry.field.key value)) :
    s.masked.assign .indexer a.masked = (s.assign .indexer a).map masked := by
  have hput : s.masked.document.put? entry.scope entry.field.key
      (maskScalar entry.scope entry.field.key value)
        = (s.document.put? entry.scope entry.field.key value).map .masked :=
    put?_masked s.document entry.scope entry.field.key value
  simp only [assign, a.key_masked, hentry, hvalue, hmasked, hput]
  cases s.document.put? entry.scope entry.field.key value <;> rfl

theorem assign_masked (s : Source) (a : Assignment) :
    s.masked.assign .indexer a.masked = (s.assign .indexer a).map masked := by
  by_cases hkey : a.key = "database.password"
  · obtain ⟨entry, hentry, hmask, hkind⟩ : ∃ entry,
        Registry.indexer.field? "database.password" = some entry
        ∧ maskScalar entry.scope entry.field.key (.string a.value) = .string (maskText a.value)
        ∧ entry.field.kind = .string := ⟨_, rfl, rfl, rfl⟩
    have hvalue : entry.field.kind.coerce? a.value = some (.string a.value) := by
      rw [hkind]
      rfl
    refine s.assign_masked_of_coerce? (hkey ▸ hentry) hvalue ?_
    rw [hkind, hmask, Assignment.masked, if_pos hkey]
    rfl
  · have hsame : a.masked = a := if_neg hkey
    cases hentry : Registry.indexer.field? a.key with
    | none => simp only [assign, hsame, hentry, Except.map]
    | some entry =>
        cases hvalue : entry.field.kind.coerce? a.value with
        | none => simp only [assign, hsame, hentry, hvalue, Except.map]
        | some value =>
            have hother : flatKey entry.scope entry.field.key ≠ "database.password" :=
              (Registry.of_field?_eq_some hentry).1 ▸ hkey
            refine s.assign_masked_of_coerce? hentry hvalue ?_
            rw [hsame, maskScalar_of_ne hother, hvalue]

theorem map_masked_override (s : Source) {assignment : String} {a : Assignment}
    (ha : Assignment.ofText? assignment = some a) :
    (s.override .indexer assignment).map masked = s.masked.assign .indexer a.masked := by
  rw [assign_masked, override, ha]

/-! ## Sources that differ in the password -/

/-- The same override, or two that give the password, neither of them a blank
one. -/
inductive SameOverride (assignment : String) : String → Prop
  | same : SameOverride assignment assignment
  | password {assignment' : String} {a a' : Assignment}
      (ha : Assignment.ofText? assignment = some a)
      (ha' : Assignment.ofText? assignment' = some a')
      (hkey : a.key = "database.password") (hkey' : a'.key = "database.password")
      (hset : IsSet a.value) (hset' : IsSet a'.value) : SameOverride assignment assignment'

theorem SameOverride.map_key {assignment assignment' : String}
    (h : SameOverride assignment assignment') :
    (Assignment.ofText? assignment').map Assignment.key
      = (Assignment.ofText? assignment).map Assignment.key := by
  cases h with
  | same => rfl
  | password ha ha' hkey hkey' =>
      rw [ha, ha', Option.map_some, Option.map_some, hkey, hkey']

/-- What is seen of a source after an override depends on what is seen of it
before, and not on the password that is given. -/
theorem SameOverride.map_override {assignment assignment' : String}
    (h : SameOverride assignment assignment') {s s' : Source} (hs : s'.masked = s.masked) :
    (s'.override .indexer assignment').map masked
      = (s.override .indexer assignment).map masked := by
  cases h with
  | same =>
      cases ha : Assignment.ofText? assignment with
      | none => simp only [override, ha, Except.map]
      | some a => rw [map_masked_override s ha, map_masked_override s' ha, hs]
  | @password _ a a' ha ha' hkey hkey' hset hset' =>
      have hsame : a'.masked = a.masked := by
        rw [Assignment.masked, Assignment.masked, if_pos hkey, if_pos hkey',
          maskText_of_isSet hset, maskText_of_isSet hset', hkey, hkey']
      rw [map_masked_override s ha, map_masked_override s' ha', hs, hsame]

/-- The same file, or two that hold objects, with texts that are set as
passwords, the same ones everywhere else. -/
inductive SameFile (fs fs' : FileSystem) (path : String) : Prop
  | same (h : fs'.readText path = fs.readText path)
  | password {d d' : Document} {password password' : String}
      (hd : ofFile fs path = .ok ⟨d, []⟩) (hd' : ofFile fs' path = .ok ⟨d', []⟩)
      (hpassword : d.at? "database" "password" = some (.ofString password))
      (hput : d.put? "database" "password" (.string password') = some d')
      (hset : IsSet password) (hset' : IsSet password')

theorem SameFile.map_ofFile {fs fs' : FileSystem} {path : String} (h : SameFile fs fs' path) :
    (ofFile fs' path).map masked = (ofFile fs path).map masked := by
  cases h with
  | same h => rw [ofFile, ofFile, h]
  | @password d d' _ _ hd hd' hpassword hput hset hset' =>
      have hsame : d'.masked = d.masked := Document.masked_eq_of_put? hpassword hset hput hset'
      rw [hd, hd']
      show Except.ok (⟨d'.masked, []⟩ : Source) = .ok ⟨d.masked, []⟩
      rw [hsame]

end Source

end IndexerSettings
