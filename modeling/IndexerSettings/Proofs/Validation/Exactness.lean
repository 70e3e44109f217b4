import IndexerSettings.Proofs.Decimal.Numeral
import IndexerSettings.Proofs.Text.Trimming
import IndexerSettings.Proofs.Validation.Requirement
import IndexerSettings.Validation.Rule

/-!
# Exactly what validation does

The requirements on settings, written down without the rules that check them,
and what the settings become when they are completed.  Each section's check
decides its requirements, the rules one after the other decide all of them,
and what a rule rewrites is nothing that a later one reads.
-/

namespace IndexerSettings

open Decimal Requirement

/-! ## The requirements -/

/-- There is something in a text besides blanks. -/
def IsSet (s : String) : Prop := Text.trimChars s.toList ≠ []

/-- A number of sixteen bits, written in digits after at most one `+`, with
nothing but blanks around it. -/
def IsPort (s : String) : Prop :=
  ∃ digits, (Text.trimChars s.toList = digits ∨ Text.trimChars s.toList = '+' :: digits)
    ∧ IsNumeral digits ∧ numeralValue digits ≤ 65535

def DatabaseSettings.requirements (s : DatabaseSettings) : List Requirement := [
  ⟨IsSet s.host, .badSection "database" "host" .notSet⟩,
  ⟨IsSet s.port, .badSection "database" "port" .notSet⟩,
  ⟨IsSet s.database, .badSection "database" "database" .notSet⟩,
  ⟨IsSet s.user, .badSection "database" "user" .notSet⟩,
  ⟨IsSet s.password, .badSection "database" "password" .notSet⟩,
  ⟨IsPort s.port, .badSection "database" "port" (.noPort s.port)⟩]

def ProbeSettings.requirements (s : ProbeSettings) : List Requirement := [
  ⟨IsSet s.rpc, .badSection "probe" "rpc" .notSet⟩,
  ⟨IsSet s.accountPrefix, .badSection "probe" "account-prefix" .notSet⟩,
  ⟨IsSet s.chainId, .badSection "probe" "chain-id" .notSet⟩]

def ThrottlingSettings.requirements (s : ThrottlingSettings) : List Requirement := [
  ⟨s.throttling.isFinite = true ∧ s.throttling.isBelowZero = false,
    .badSection "throttling" "throttling" (.noDuration s.throttling)⟩]

def BaseSettings.requirements (fs : FileSystem) (s : BaseSettings) :
    List Requirement := [
  ⟨s.indexTransactions = true ∨ s.indexBlockEvents = true, .nothingIndexed⟩,
  ⟨s.startBlock ≠ 0, .blockNotSet "base.start-block" s.startBlock⟩,
  ⟨s.endBlock ≠ 0, .blockNotSet "base.end-block" s.endBlock⟩,
  ⟨¬(s.indexBlockEvents = true ∧ s.blockEventFilterFile ≠ ""
      ∧ fs.status s.blockEventFilterFile = .error .notFound),
    .filterFileMissing s.blockEventFilterFile⟩]

/-- What valid settings meet, in the order in which it counts. -/
def Settings.requirements (fs : FileSystem) (s : Settings) : List Requirement :=
  s.database.requirements ++ (s.probe.requirements
    ++ (s.base.throttling.requirements ++ s.base.requirements fs))

/-- The settings with the name of the chain and the port of the node filled
in where they are missing. -/
def Settings.completed (s : Settings) : Settings :=
  { s with
    probe := { s.probe with
      chainName :=
        if s.probe.chainName = "" then s.probe.chainId else s.probe.chainName }
    base := { s.base with api := Endpoint.withDefaultPort s.base.api } }

/-! ## Checks of single sections -/

theorem isBlankText_iff_not_isSet {s : String} :
    Text.isBlankText s = true ↔ ¬IsSet s := by
  rw [Text.isBlankText_iff, IsSet, not_not]

theorem requireSet_decides (name : String) (fields : List (String × String)) :
    Decides (fields.map fun f => ⟨IsSet f.2, .badSection name f.1 .notSet⟩) ()
      (requireSet name fields) := by
  induction fields with
  | nil => exact decides_nil ()
  | cons f rest ih =>
      obtain ⟨field, value⟩ := f
      rw [List.map_cons, requireSet]
      refine Decides.cons (fun hblank => ?_) (fun hset => ?_)
      · rw [if_pos (isBlankText_iff_not_isSet.mpr hblank)]
      · rw [if_neg (fun h => isBlankText_iff_not_isSet.mp h hset)]
        exact ih

namespace DatabaseSettings

theorem portNumber?_isSome_iff {s : DatabaseSettings} :
    s.portNumber?.isSome = true ↔ IsPort s.port := by
  rw [Option.isSome_iff_exists, IsPort]
  simp only [portNumber?, Option.filter_eq_some_iff, unsigned?_eq_some_iff,
    decide_eq_true_eq]
  constructor
  · rintro ⟨n, ⟨digits, htext, hnum, rfl⟩, hle⟩
    exact ⟨digits, htext, hnum, hle⟩
  · rintro ⟨digits, htext, hnum, hle⟩
    exact ⟨_, ⟨digits, htext, hnum, rfl⟩, hle⟩

theorem check_decides (s : DatabaseSettings) : Decides s.requirements () s.check := by
  refine (requireSet_decides "database" s.required).bind fun _ => ?_
  refine Decides.cons (fun hport => ?_) (fun hport => ?_)
  · rw [if_neg (fun h => hport (portNumber?_isSome_iff.mp h))]
  · rw [if_pos (portNumber?_isSome_iff.mpr hport)]
    exact decides_nil ()

end DatabaseSettings

theorem ProbeSettings.check_decides (s : ProbeSettings) :
    Decides s.requirements s.named s.check :=
  (requireSet_decides "probe" s.required).bind fun _ => decides_nil s.named

theorem ThrottlingSettings.check_decides (s : ThrottlingSettings) :
    Decides s.requirements () s.check := by
  rw [check]
  refine Decides.cons (fun hbad => ?_) (fun hgood => ?_)
  · rw [if_neg (by simpa using hbad)]
  · rw [if_pos (by simpa using hgood)]
    exact decides_nil ()

/-! ## The rules on what is indexed -/

namespace BaseSettings

theorem indexesAnything_iff {s : BaseSettings} :
    s.indexesAnything = true ↔ s.indexTransactions = true ∨ s.indexBlockEvents = true := by
  rw [indexesAnything, Bool.or_eq_true]

theorem checkRange_decides {s : BaseSettings} (hany : s.indexesAnything = true) :
    Decides [
      ⟨s.startBlock ≠ 0, .blockNotSet "base.start-block" s.startBlock⟩,
      ⟨s.endBlock ≠ 0, .blockNotSet "base.end-block" s.endBlock⟩] () s.checkRange := by
  rw [checkRange, if_neg (by simp [hany])]
  refine Decides.cons (fun hstart => ?_) (fun hstart => ?_)
  · rw [if_pos (not_not.mp hstart)]
  · rw [if_neg hstart]
    refine Decides.cons (fun hend => ?_) (fun hend => ?_)
    · rw [if_pos (not_not.mp hend)]
    · rw [if_neg hend]
      exact decides_nil ()

theorem filterPath?_eq_some_iff {s : BaseSettings} {path : String} :
    s.filterPath? = some path ↔
      s.blockEventFilterFile ≠ "" ∧ s.blockEventFilterFile = path := by
  rw [filterPath?]
  split
  · rename_i hempty
    simp [String.isEmpty_iff.mp hempty]
  · rename_i hnonempty
    simp only [String.isEmpty_iff] at hnonempty
    simp [hnonempty]

/-- The file of event filters is refused in exactly one case. -/
theorem checkFilterFile_eq (fs : FileSystem) (s : BaseSettings) :
    Rule.checkFilterFile fs s =
      if s.indexBlockEvents = true ∧ s.blockEventFilterFile ≠ ""
          ∧ fs.status s.blockEventFilterFile = .error .notFound
      then .error (.filterFileMissing s.blockEventFilterFile) else .ok () := by
  rw [Rule.checkFilterFile]
  cases hevents : s.indexBlockEvents with
  | false => simp
  | true =>
      cases hpath : s.filterPath? with
      | none =>
          have hname : s.blockEventFilterFile = "" := by
            by_contra hname
            have := filterPath?_eq_some_iff.mpr ⟨hname, rfl⟩
            rw [hpath] at this
            cases this
          simp [hname]
      | some path =>
          obtain ⟨hname, rfl⟩ := filterPath?_eq_some_iff.mp hpath
          simp only [Bool.not_true, Bool.false_eq_true, if_false, true_and]
          split
          · rename_i hstatus
            rw [if_pos ⟨hname, hstatus⟩]
          · rename_i hstatus
            rw [if_neg (fun h => hstatus h.2)]

theorem checkFilterFile_decides (fs : FileSystem) (s : BaseSettings) :
    Decides [⟨¬(s.indexBlockEvents = true ∧ s.blockEventFilterFile ≠ ""
        ∧ fs.status s.blockEventFilterFile = .error .notFound),
      .filterFileMissing s.blockEventFilterFile⟩] () (Rule.checkFilterFile fs s) := by
  rw [checkFilterFile_eq]
  refine Decides.cons (fun hmissing => ?_) (fun hthere => ?_)
  · rw [if_pos (not_not.mp hmissing)]
  · rw [if_neg hthere]
    exact decides_nil ()

theorem indexingMode_decides (s : BaseSettings) :
    Decides [⟨s.indexTransactions = true ∨ s.indexBlockEvents = true, .nothingIndexed⟩]
      () (if s.indexesAnything then .ok () else .error .nothingIndexed) := by
  refine Decides.cons (fun hnone => ?_) (fun hany => ?_)
  · rw [if_neg (fun h => hnone (indexesAnything_iff.mp h))]
  · rw [if_pos (indexesAnything_iff.mpr hany)]
    exact decides_nil ()

end BaseSettings

/-! ## All rules -/

theorem checkRules_cons (fs : FileSystem) (s : Settings) (r : Rule) (rest : List Rule) :
    checkRules fs s (r :: rest)
      = (r.apply fs s).outcome >>= fun _ => checkRules fs (r.apply fs s).settings rest := by
  rw [checkRules]
  cases (r.apply fs s).outcome with
  | ok u => rfl
  | error e => rfl

/-- A rule that leaves the settings as they are, before other rules. -/
theorem decides_checkRules_cons {fs : FileSystem} {s s' : Settings} (r : Rule)
    {rest : List Rule} {rs qs : List Requirement}
    (hr : Decides rs () (r.apply fs s).outcome) (hsame : (r.apply fs s).settings = s)
    (hrest : (∀ q ∈ rs, q.met) → Decides qs s' (checkRules fs s rest)) :
    Decides (rs ++ qs) s' (checkRules fs s (r :: rest)) := by
  rw [checkRules_cons, hsame]
  exact hr.bind hrest

theorem ProbeSettings.named_eq (s : ProbeSettings) :
    s.named = { s with
      chainName := if s.chainName = "" then s.chainId else s.chainName } := by
  rw [named]
  by_cases hname : s.chainName = "" <;> simp [hname]

namespace Settings

/-- The rules behind `probe` on settings whose section `probe` is completed:
they read and rewrite other sections only. -/
theorem checkRules_decides_base (fs : FileSystem) (s : Settings) :
    Decides (s.base.throttling.requirements ++ s.base.requirements fs)
      { s with base := { s.base with api := Endpoint.withDefaultPort s.base.api } }
      (checkRules fs s
        [.throttling, .indexingMode, .blockRange, .filterFile, .apiEndpoint]) := by
  refine decides_checkRules_cons .throttling s.base.throttling.check_decides rfl
    fun _ => ?_
  refine decides_checkRules_cons .indexingMode s.base.indexingMode_decides rfl
    fun hany => ?_
  have hany : s.base.indexesAnything = true :=
    BaseSettings.indexesAnything_iff.mpr (hany _ List.mem_cons_self)
  refine decides_checkRules_cons .blockRange (BaseSettings.checkRange_decides hany) rfl
    fun _ => ?_
  refine decides_checkRules_cons .filterFile (s.base.checkFilterFile_decides fs) rfl
    fun _ => ?_
  exact decides_nil _

/-- The rules decide the requirements on the settings as they were given, and
complete them. -/
theorem validate_decides (fs : FileSystem) (s : Settings) :
    Decides (s.requirements fs) s.completed (s.validate fs) := by
  refine decides_checkRules_cons .database s.database.check_decides rfl fun _ => ?_
  have hprobe : checkRules fs s (.probe :: Rule.all.drop 2)
      = s.probe.check >>= fun p => checkRules fs { s with probe := p } (Rule.all.drop 2) := by
    rw [checkRules_cons, Rule.apply]
    cases s.probe.check with
    | ok p => rfl
    | error e => rfl
  show Decides _ _ (checkRules fs s (.probe :: Rule.all.drop 2))
  rw [hprobe]
  refine s.probe.check_decides.bind fun _ => ?_
  rw [completed, ← s.probe.named_eq]
  exact checkRules_decides_base fs { s with probe := s.probe.named }

/-- Validation succeeds exactly if every requirement is met, and then gives the
settings completed; it fails with exactly the error of the first requirement
that the settings it was given do not meet. -/
theorem validate_exact (fs : FileSystem) (s : Settings) :
    (∀ s', s.validate fs = .ok s' ↔
      (∀ r ∈ s.requirements fs, r.met) ∧ s' = s.completed)
    ∧ ∀ e, s.validate fs = .error e ↔ FirstUnmet (s.requirements fs) e :=
  ⟨fun _ => (validate_decides fs s).eq_ok_iff,
    fun _ => (validate_decides fs s).eq_error_iff⟩

end Settings

end IndexerSettings
