import IndexerSettings.Proofs.Decimal.ReadBack
import IndexerSettings.Proofs.Settings.Rows
import IndexerSettings.Proofs.Source.Refusing
import IndexerSettings.Proofs.Source.RoundTrip
import IndexerSettings.Proofs.Source.ValueTexts

/-!
# Rows given back as overrides

What is shown of settings has a row for each key, and a row is an override once an
equals sign is put between its key and its text: the keys hold no such sign, and the
text of a value is one that its field takes for that value
(`FieldValue.coerce?_plainText`).  Strings are shown and taken as they are, so nothing
in them can go wrong.  All rows together give every field, so that they make any source
that they can be applied to load as the settings that were shown (`Source.rows_replay`).
-/

namespace IndexerSettings

open Decimal
open Settings.Part (entries_indexer exists_lookup_values)
open Text (isBlank trimChars)

/-! ## Texts of values -/

theorem Json.Number.toList_text_ofUInt64 (n : UInt64) :
    (ofUInt64 n).text.toList = Nat.toDigits 10 n.toNat := by
  have hsign : ¬(n.toNat : Int) < 0 := by omega
  rw [ofUInt64, text, if_neg hsign]
  simp [Layout.digitText]

/-- What is shown of a value, a field of its kind takes for the value as it is
written. -/
theorem FieldValue.coerce?_plainText {v : FieldValue} (hv : v.IsWritable) :
    ∃ value, v.toJson = .scalar value
      ∧ v.kind.coerce? (Settings.plainText v.toJson) = some value := by
  cases v with
  | bool b =>
      refine ⟨_, rfl, FieldKind.coerce?_bool_iff.mpr ⟨b, ?_, rfl⟩⟩
      cases b <;> decide
  | int n =>
      have hwrites : Writes (Json.Number.ofInt64 n).text.toList n.toInt :=
        Layout.writes_signed (.inl rfl) n.toInt
      refine ⟨_, rfl, FieldKind.coerce?_int_iff.mpr ⟨n, ?_, rfl⟩⟩
      exact (Text.trimChars_of_forall hwrites.isBlank_eq_false).symm ▸ hwrites
  | uint n =>
      have hdigits := isNumeral_toDigits n.toNat
      refine ⟨_, rfl, FieldKind.coerce?_uint_iff.mpr ⟨n, ?_, rfl⟩⟩
      show unsigned? (trimChars (Json.Number.ofUInt64 n).text.toList) = _
      rw [Json.Number.toList_text_ofUInt64, Text.trimChars_of_forall hdigits.isBlank_eq_false]
      exact unsigned?_eq_some_iff.mpr ⟨_, .inl rfl, hdigits, numeralValue_toDigits _⟩
  | float x =>
      have hnumber : Json.Number.ofBinary64? x = some (.real x hv) := dif_pos hv
      have hwritten : (float x).toJson = .scalar (.number (.real x hv)) := by
        rw [toJson, Json.Scalar.ofBinary64, hnumber]
        rfl
      rw [hwritten]
      refine ⟨_, rfl, FieldKind.coerce?_float_iff.mpr ⟨x, hv, ?_, rfl⟩⟩
      show Binary64.ofText? (trimChars (Json.numberLayout.text x).toList) = _
      rw [Layout.trimChars_text _ hv, Layout.ofText?_text _ hv]
  | string s => exact ⟨_, rfl, rfl⟩

/-! ## Rows as overrides -/

/-- Nothing in the keys of the indexer stands in the way of reading them. -/
theorem Registry.plain_flatKeys_indexer : ∀ key ∈ indexer.flatKeys,
    '=' ∉ key.toList ∧ ∀ c ∈ key.toList, isBlank c = false := by
  have hall : (indexer.flatKeys.all fun key =>
      key.toList.all fun c => c != '=' && !isBlank c) = true := by decide +kernel
  intro key hkey
  have hchars := List.all_eq_true.mp (List.all_eq_true.mp hall key hkey)
  simp only [Bool.and_eq_true, bne_iff_ne, Bool.not_eq_true'] at hchars
  exact ⟨fun hsign => (hchars '=' hsign).1 rfl, fun c hc => (hchars c hc).2⟩

namespace Settings

variable {s : Settings} {row : String × String}

theorem field?_flatKey {p : Part} {f : Field} (hf : f ∈ p.owner.allFields) :
    Registry.indexer.field? (flatKey p.scope f.key) = some ⟨p.scope, p.owner, f⟩ := by
  have hl : ⟨p.scope, p.owner, f⟩ ∈ Registry.indexer.declared :=
    Registry.mem_declared.mpr ⟨p.mem_entries, hf⟩
  have hfound := Registry.field?_flatKey hl (Registry.dot_notMem_indexer _ p.mem_entries).1
  rw [FieldEntry.flatKey] at hfound
  exact hfound

theorem ofText?_of_mem_rows (h : row ∈ s.rows) :
    Assignment.ofText? (row.1 ++ "=" ++ row.2) = some ⟨row.1, row.2⟩ := by
  obtain ⟨p, f, v, hf, -, rfl⟩ := mem_rows_iff.mp h
  have hkey : flatKey p.scope f.key ∈ Registry.indexer.flatKeys :=
    Registry.mem_flatKeys.mpr ⟨_, p.mem_entries, f.key, List.mem_map_of_mem hf, rfl⟩
  obtain ⟨hsign, hblank⟩ := Registry.plain_flatKeys_indexer _ hkey
  refine Assignment.ofText?_eq_some_iff.mpr ⟨(flatKey p.scope f.key).toList, ?_, hsign, ?_⟩
  · simp
  · exact Text.trimChars_eq_iff.mp (Text.trimChars_of_forall hblank)

/-- What is shown of a field, the field takes for what it is. -/
theorem exists_coerce? (hfinite : s.base.throttling.throttling.isFinite = true) {p : Part}
    {f : Field} {v : FieldValue} (hf : f ∈ p.owner.allFields)
    (hv : s.value? p.scope f.key = some v) :
    ∃ value, v.toJson = .scalar value ∧ f.kind.coerce? (plainText v.toJson) = some value
      ∧ f.kind.valueOf? v.toJson = some v := by
  rw [value?_scope] at hv
  have hwritable : v.IsWritable :=
    Part.isWritable_of_mem_values hfinite p _ (Json.mem_of_lookup_eq_some hv)
  obtain ⟨w, hw, hkind⟩ := exists_lookup_values hf (p.get s)
  obtain rfl := Option.some.inj (hv.symm.trans hw)
  obtain ⟨value, hvalue, htext⟩ := FieldValue.coerce?_plainText hwritable
  rw [← hkind]
  exact ⟨value, hvalue, htext, FieldValue.valueOf?_toJson hwritable⟩

end Settings

namespace Source

variable {src : Source} {s : Settings} {assignments : List String}

theorem nodup_map_fst_rows (s : Settings) : (s.rows.map Prod.fst).Nodup := by
  rw [Settings.map_fst_rows]
  exact nodup_leafKeys_toDocument s

theorem mem_map_fst_rows {key : String} :
    key ∈ s.rows.map Prod.fst ↔ key ∈ Registry.indexer.validKeys := by
  rw [Settings.map_fst_rows]
  exact mem_leafKeys_toDocument s

/-- A source with objects for sections takes each row. -/
theorem exists_override_of_mem_rows (hsections : src.document.HasSections)
    (hfinite : s.base.throttling.throttling.isFinite = true) {row : String × String}
    (h : row ∈ s.rows) : ∃ src', src.override .indexer (row.1 ++ "=" ++ row.2) = .ok src' := by
  have ha := Settings.ofText?_of_mem_rows h
  obtain ⟨p, f, v, hf, hv, rfl⟩ := Settings.mem_rows_iff.mp h
  obtain ⟨value, -, hvalue, -⟩ := Settings.exists_coerce? hfinite hf hv
  obtain ⟨members, hmembers⟩ := Document.hasSections_iff.mp hsections p
  have hput : (src.document.put? p.scope f.key value).isSome = true := by
    rw [Document.isSome_put?, hmembers]
    rfl
  obtain ⟨d, hd⟩ := Option.isSome_iff_exists.mp hput
  rw [override, ha]
  simp only [assign, Settings.field?_flatKey hf, hvalue, hd]
  exact ⟨_, rfl⟩

/-- The text that the rows give to a field is the one shown of it. -/
theorem lastText?_rows (hperm : assignments.Perm (s.rows.map fun row => row.1 ++ "=" ++ row.2))
    {row : String × String} (h : row ∈ s.rows) :
    Assignment.lastText? assignments row.1 = some row.2 := by
  have hparsed : (assignments.filterMap Assignment.ofText?).Perm
      (s.rows.map fun row => ⟨row.1, row.2⟩) := by
    refine (hperm.filterMap _).trans (List.Perm.of_eq ?_)
    rw [List.filterMap_map, ← List.filterMap_eq_map]
    exact List.filterMap_congr fun row hrow => Settings.ofText?_of_mem_rows hrow
  have hkeys : ((assignments.filterMap Assignment.ofText?).map Assignment.key).Nodup := by
    rw [(hparsed.map _).nodup_iff, List.map_map]
    exact nodup_map_fst_rows s
  have hrow : ⟨row.1, row.2⟩ ∈ assignments.filterMap Assignment.ofText? :=
    hparsed.mem_iff.mpr (List.mem_map_of_mem h)
  exact Assignment.lastText?_eq_some hkeys hrow

theorem exists_overrideAll_rows (hsections : src.document.HasSections)
    (hfinite : s.base.throttling.throttling.isFinite = true)
    (hperm : assignments.Perm (s.rows.map fun row => row.1 ++ "=" ++ row.2)) :
    ∃ src', src.overrideAll .indexer assignments = .ok src' := by
  have hanswers := map_overrideAll (s := src) (fun _ => rfl) .indexer assignments
  have hall : forM assignments (src.answer .indexer) = .ok () := by
    refine Outcome.forM_eq_ok_iff.mpr fun assignment hassignment => ?_
    obtain ⟨row, hrow, rfl⟩ := List.mem_map.mp (hperm.mem_iff.mp hassignment)
    exact answer_eq_ok_iff.mpr (exists_override_of_mem_rows hsections hfinite hrow)
  rw [hall, Outcome.map_eq_ok_iff] at hanswers
  obtain ⟨src', hsrc', -⟩ := hanswers
  exact ⟨src', hsrc'⟩

theorem toSettings_overrideAll_rows (hsections : src.document.HasSections)
    (hfinite : s.base.throttling.throttling.isFinite = true)
    (hperm : assignments.Perm (s.rows.map fun row => row.1 ++ "=" ++ row.2)) {src' : Source}
    (h : src.overrideAll .indexer assignments = .ok src') : src'.toSettings = .ok s := by
  have hsections' : src'.document.HasSections := by
    intro scope hscope
    have hsome := Option.isSome_iff_exists.mpr (hsections scope hscope)
    rw [← sameSections_of_overrideAll h scope] at hsome
    exact Option.isSome_iff_exists.mp hsome
  refine (toSettings_eq_ok_iff_gives hsections').mpr fun p f hf => ?_
  obtain ⟨v, hv, -⟩ := exists_lookup_values hf (p.get s)
  rw [← Settings.value?_scope] at hv
  have hrow := Settings.mem_rows_iff.mpr ⟨p, f, v, hf, hv, rfl⟩
  obtain ⟨value, hwritten, hvalue, hread⟩ := Settings.exists_coerce? hfinite hf hv
  obtain ⟨entry, value', hentry, hvalue', hat⟩ :=
    (overridden_overrideAll h).given _ _ (lastText?_rows hperm hrow)
  obtain rfl := Option.some.inj ((Settings.field?_flatKey hf).symm.trans hentry)
  obtain rfl := Option.some.inj (hvalue.symm.trans hvalue')
  refine ⟨v, hv, ?_⟩
  rw [Document.Gives, hat, ← hwritten]
  exact hread

/-- The rows of settings are those of the keys, one for each, in the order of sections
and, within these, of fields.  As overrides of a source whose sections are objects or
absent they are all taken, in whatever order they come, and the source then loads as the
settings. -/
theorem rows_replay (s : Settings) (hfinite : s.base.throttling.throttling.isFinite = true) :
    (∃ places : List (String × String),
      s.rows.map Prod.fst = places.map (fun place => flatKey place.1 place.2)
      ∧ places.Pairwise (Prod.Lex (· < ·) (· < ·))
      ∧ ∀ scope key, (scope, key) ∈ places ↔
          ∃ owner, (scope, owner) ∈ Registry.indexer.entries ∧ key ∈ owner.keys)
    ∧ (s.rows.map Prod.fst).Nodup
    ∧ (∀ key, key ∈ s.rows.map Prod.fst ↔ key ∈ Registry.indexer.validKeys)
    ∧ ∀ (src : Source) (assignments : List String), src.document.HasSections →
      assignments.Perm (s.rows.map fun row => row.1 ++ "=" ++ row.2) →
      ∃ src', src.overrideAll .indexer assignments = .ok src' ∧ src'.toSettings = .ok s := by
  refine ⟨?_, nodup_map_fst_rows s, fun key => mem_map_fst_rows, fun src assignments hsections
    hperm => ?_⟩
  · obtain ⟨places, hkeys, hascending, hplaces⟩ := Settings.exists_places s
    refine ⟨places, hkeys, hascending, fun scope key => (hplaces scope key).trans ?_⟩
    constructor
    · rintro ⟨p, rfl, hkey⟩
      exact ⟨p.owner, p.mem_entries, hkey⟩
    · rintro ⟨owner, hentry, hkey⟩
      rw [entries_indexer] at hentry
      obtain ⟨p, -, heq⟩ := List.mem_map.mp hentry
      obtain ⟨rfl, rfl⟩ := Prod.mk.inj heq
      exact ⟨p, rfl, hkey⟩
  · obtain ⟨src', hsrc'⟩ := exists_overrideAll_rows hsections hfinite hperm
    exact ⟨src', hsrc', toSettings_overrideAll_rows hsections hfinite hperm hsrc'⟩

/-- Texts that look like overrides themselves or are nothing but blanks, the ends of the
ranges of whole numbers, and the least number above zero, given back from the last row
to the first. -/
theorem rows_replay_backwards :
    let s : Settings := {
      database := { host := "", user := " a=b ", password := "\n" }
      base := {
        throttling := ⟨⟨1⟩⟩
        retry := { attempts := -9223372036854775808, maxWait := 18446744073709551615 } } }
    let src : Source := ⟨.ofMembers [("base", .object [("dry", .ofString "?")])], []⟩
    let assignments := (s.rows.map fun row => row.1 ++ "=" ++ row.2).reverse
    s.base.throttling.throttling.isFinite = true
    ∧ src.document.HasSections
    ∧ ("database.user", " a=b ") ∈ s.rows
    ∧ ∃ src', src.overrideAll .indexer assignments = .ok src' ∧ src'.toSettings = .ok s := by
  intro s src assignments
  have hfinite : s.base.throttling.throttling.isFinite = true := by decide
  have hsections : src.document.HasSections :=
    Document.hasSections_iff.mpr fun p => by cases p <;> exact ⟨_, rfl⟩
  have hrow : ("database.user", " a=b ") ∈ s.rows := Settings.mem_rows_iff.mpr
    ⟨.database, ⟨"user", .string, "database user"⟩, .string " a=b ", by decide, rfl, rfl⟩
  exact ⟨hfinite, hsections, hrow,
    (rows_replay s hfinite).2.2.2 src assignments hsections (List.reverse_perm _)⟩

end Source

end IndexerSettings
