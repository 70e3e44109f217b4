import IndexerSettings.Proofs.CommandLine.FixedPoint
import IndexerSettings.Proofs.Source.OverriddenDrift

/-!
# Drift that is reported twice

`validate` reports the unknown keys of a file with overrides applied to it,
`check-keys` those of the file.  Overrides add none, so the first are among the
second, and without overrides they are the same (`Invocation.drift_bounded`).
-/

namespace IndexerSettings

open Outcome (bind_eq_ok_iff mapError_eq_ok_iff)

namespace Session

variable {fs : FileSystem} {path : String} {overrides : List String} {report : ValidReport}

/-- What a file was found valid with is told by its source and by that source
overridden. -/
theorem exists_overrideAll_of_validateFile
    (h : (validateFile fs path overrides).result = .ok report) :
    ∃ s s', Source.ofFile fs path = .ok s ∧ s.overrideAll .indexer overrides = .ok s'
      ∧ report.unknownKeys = Registry.indexer.unknownKeys s'.suppliedKeys := by
  rw [result_validateFile] at h
  obtain ⟨s, hs, h⟩ := bind_eq_ok_iff.mp h
  obtain ⟨s', hs', h⟩ := bind_eq_ok_iff.mp h
  obtain ⟨settings, -, h⟩ := bind_eq_ok_iff.mp h
  obtain ⟨settings', -, h⟩ := bind_eq_ok_iff.mp h
  obtain rfl := Except.ok.inj h
  exact ⟨s, s', mapError_eq_ok_iff.mp hs, mapError_eq_ok_iff.mp hs', rfl⟩

theorem result_checkKeys_of_ofFile {s : Source} (hs : Source.ofFile fs path = .ok s) :
    (checkKeys fs path).result
      = .ok ⟨path, s.suppliedKeys.length, Registry.indexer.unknownKeys s.suppliedKeys⟩ := by
  rw [result_checkKeys, hs]
  rfl

/-- A file that is found valid has been checked for its keys as well. -/
theorem exists_checkKeys_of_validateFile
    (h : (validateFile fs path overrides).result = .ok report) :
    ∃ drift, (checkKeys fs path).result = .ok drift
      ∧ report.unknownKeys.Sublist drift.unknownKeys
      ∧ (overrides = [] → report.unknownKeys = drift.unknownKeys) := by
  obtain ⟨s, s', hs, hs', hunknown⟩ := exists_overrideAll_of_validateFile h
  refine ⟨_, result_checkKeys_of_ofFile hs, ?_, ?_⟩
  · rw [hunknown]
    exact Source.unknownKeys_overrideAll_sublist hs'
  · rintro rfl
    obtain rfl := Except.ok.inj hs'
    exact hunknown

end Session

namespace Invocation

/-- A run of `check-keys` writes the report of the file. -/
theorem run_checkKeys {i : Invocation} {fs : FileSystem} {path : String} {drift : DriftReport}
    (hi : i.command = .checkKeys path) (h : (Session.checkKeys fs path).result = .ok drift)
    (stamp : String) :
    (i.run fs stamp).code = 0 ∧ (i.run fs stamp).stdout = Text.unlines (drift.lines i.format) := by
  have hlines : (Session.ofCommand fs i.format i.command).result = .ok (drift.lines i.format) := by
    rw [hi, Session.result_ofCommand_checkKeys, h]
    rfl
  rw [run_of_ok hlines]
  exact ⟨rfl, rfl⟩

/-- An override adds nothing to the keys that are reported, and takes from them
only those whose leaves are all beneath its field.  So what a successful run of
`validate` reports is among what `check-keys` reports of the same file. -/
theorem drift_bounded :
    (∀ (r : Registry) (s s' : Source) (assignment : String), s.override r assignment = .ok s' →
      (∀ k ∈ r.unknownKeys s'.suppliedKeys, k ∈ r.unknownKeys s.suppliedKeys)
      ∧ ∃ a entry value, s.Takes r assignment a entry value
        ∧ ∀ k ∈ r.unknownKeys s.suppliedKeys, k ∉ r.unknownKeys s'.suppliedKeys →
          (∃ path ∈ s.document.leafPaths, ".".intercalate path = k)
          ∧ ∀ path ∈ s.document.leafPaths, ".".intercalate path = k →
            s.document.Beneath entry.scope entry.field.key path)
    ∧ ∀ (fs : FileSystem) (path stamp : String) (overrides : List String) (format : OutputFormat)
        (logFormat : Log.Format) (logLevel : Log.Level),
      (run ⟨format, logFormat, logLevel, .validate path overrides⟩ fs stamp).code = 0 →
      ∃ report drift,
        (Session.validateFile fs path overrides).result = .ok report
        ∧ (run ⟨format, logFormat, logLevel, .validate path overrides⟩ fs stamp).stdout
          = Text.unlines (report.lines format)
        ∧ (Session.checkKeys fs path).result = .ok drift
        ∧ (∀ (i : Invocation) (stamp : String), i.command = .checkKeys path →
          (i.run fs stamp).code = 0
          ∧ (i.run fs stamp).stdout = Text.unlines (drift.lines i.format))
        ∧ report.unknownKeys.Sublist drift.unknownKeys
        ∧ (overrides = [] → report.unknownKeys = drift.unknownKeys) := by
  refine ⟨fun r s s' assignment hs' => ?_,
    fun fs path stamp overrides format logFormat logLevel h => ?_⟩
  · obtain ⟨a, entry, value, htakes⟩ := Source.takes_of_override hs'
    exact ⟨fun k hk => (Source.unknownKeys_override_sublist hs').mem hk, a, entry, value, htakes,
      fun k hk hgone => Source.beneath_of_unknownKeys_override hs' htakes hk hgone⟩
  · obtain ⟨report, hreport, hstdout⟩ := exists_report_of_code_eq_zero h
    obtain ⟨drift, hdrift, hsublist, hsame⟩ := Session.exists_checkKeys_of_validateFile hreport
    exact ⟨report, drift, hreport, hstdout, hdrift,
      fun i stamp hi => run_checkKeys hi hdrift stamp, hsublist, hsame⟩

/-- An object where a field stands is reported, and it is no longer there when
the field has been overridden. -/
theorem drift_bounded_api :
    let fs : FileSystem := ⟨fun _ => .ok
      "\x7b\"base\": \x7b\"api\": \x7b\"x\": 1\x7d\x7d, \"z\": 1\x7d".toUTF8, fun _ => .ok ()⟩
    let overrides := ["base.api=", "database.host=h", "database.database=d", "database.user=u",
      "database.password=p", "probe.rpc=r", "probe.account-prefix=a", "probe.chain-id=c",
      "base.index-transactions=true", "base.start-block=1"]
    let s : Source := ⟨.ofMembers [("base", .object [("api", .object [("x", .ofCount 1)])])], []⟩
    (run ⟨.json, .text, .info, .validate "f" overrides⟩ fs "").code = 0
    ∧ (∃ report drift, (Session.validateFile fs "f" overrides).result = .ok report
      ∧ (Session.checkKeys fs "f").result = .ok drift
      ∧ report.unknownKeys.Sublist drift.unknownKeys)
    ∧ ∃ s', s.override .indexer "base.api=" = .ok s'
      ∧ "base.api.x" ∈ Registry.indexer.unknownKeys s.suppliedKeys
      ∧ "base.api.x" ∉ Registry.indexer.unknownKeys s'.suppliedKeys
      ∧ s.document.Beneath "base" "api" ["base", "api", "x"] := by
  intro fs overrides s
  have h : (run ⟨.json, .text, .info, .validate "f" overrides⟩ fs "").code = 0 := by
    decide +kernel
  have hs' : s.override .indexer "base.api="
      = .ok ⟨.ofMembers [("base", .object [("api", .ofString "")])], ["base.api"]⟩ := rfl
  have hbefore : "base.api.x" ∈ Registry.indexer.unknownKeys s.suppliedKeys :=
    Registry.mem_unknownKeys.mpr ⟨by decide, by decide⟩
  have hafter : "base.api.x" ∉ Registry.indexer.unknownKeys
      (Source.mk (.ofMembers [("base", .object [("api", .ofString "")])])
        ["base.api"]).suppliedKeys :=
    fun hmem => absurd (Registry.mem_unknownKeys.mp hmem).1 (by decide)
  obtain ⟨hoverride, hrun⟩ := drift_bounded
  refine ⟨h, ?_, _, hs', hbefore, hafter, ?_⟩
  · obtain ⟨report, drift, hreport, -, hdrift, -, hsublist, -⟩ :=
      hrun fs "f" "" overrides .json .text .info h
    exact ⟨report, drift, hreport, hdrift, hsublist⟩
  · obtain ⟨-, a, entry, value, htakes, hgone⟩ := hoverride _ _ _ _ hs'
    obtain rfl := Option.some.inj (Assignment.ofText?_eq_some_iff.mpr htakes.written)
    obtain rfl := Option.some.inj htakes.field
    exact (hgone "base.api.x" hbefore hafter).2 _ (by decide) rfl

end Invocation

end IndexerSettings
