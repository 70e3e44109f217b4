import IndexerSettings.Proofs.CommandLine.Stages
import IndexerSettings.Proofs.Source.Reloading
import IndexerSettings.Proofs.Validation.Stability

/-!
# The printed settings

What `validate` prints of valid settings, it prints of itself again: the
settings are complete, what stands for the password is valid as a password,
and the settings load as what was written of them.
-/

namespace IndexerSettings

open Outcome (map_eq_ok_iff bind_eq_ok_iff mapError_eq_ok_iff)

/-! ## Successful runs -/

namespace Session

/-- What is reported are valid settings without their password. -/
theorem exists_validate_of_validateFile {fs : FileSystem} {path : String}
    {overrides : List String} {report : ValidReport}
    (h : (validateFile fs path overrides).result = .ok report) :
    ∃ s s', Settings.validate fs s = .ok s' ∧ report.settings = s'.redacted := by
  rw [result_validateFile] at h
  obtain ⟨source, -, h⟩ := bind_eq_ok_iff.mp h
  obtain ⟨source, -, h⟩ := bind_eq_ok_iff.mp h
  obtain ⟨s, -, h⟩ := bind_eq_ok_iff.mp h
  obtain ⟨s', hvalid, h⟩ := bind_eq_ok_iff.mp h
  obtain rfl := Except.ok.inj h
  exact ⟨s, s', mapError_eq_ok_iff.mp hvalid, rfl⟩

end Session

/-- A run that ends in success writes the report of the file. -/
theorem Invocation.exists_report_of_code_eq_zero {fs : FileSystem} {path stamp : String}
    {overrides : List String} {format : OutputFormat} {logFormat : Log.Format}
    {logLevel : Log.Level}
    (h : (run ⟨format, logFormat, logLevel, .validate path overrides⟩ fs stamp).code = 0) :
    ∃ report, (Session.validateFile fs path overrides).result = .ok report
      ∧ (run ⟨format, logFormat, logLevel, .validate path overrides⟩ fs stamp).stdout
        = Text.unlines (report.lines format) := by
  have hhonest := Session.honest_ofCommand_validate fs format path overrides
  obtain ⟨lines, hlines⟩ := (code_run_eq_zero_iff hhonest).mp h
  have hresult := hlines
  rw [Session.result_ofCommand_validate] at hresult
  obtain ⟨report, hreport, rfl⟩ := map_eq_ok_iff.mp hresult
  exact ⟨report, hreport, congrArg Finished.stdout (run_of_ok hlines)⟩

/-! ## Printed settings -/

/-- A value that is printed again from itself: it loads, has no unknown key, is
valid, and is what is printed of the settings that come of it. -/
def PrintsItself (fs : FileSystem) (v : Json) : Prop :=
  ∃ src s s', Source.ofJson v = .ok src
    ∧ Registry.indexer.unknownKeys src.suppliedKeys = []
    ∧ src.toSettings = .ok s
    ∧ s.validate fs = .ok s'
    ∧ s'.redacted.toJson = v

theorem Settings.printsItself_redacted {fs : FileSystem} {s s' : Settings}
    (h : s.validate fs = .ok s') : PrintsItself fs s'.redacted.toJson := by
  have hvalid := validate_redacted h
  have hfinite := isFinite_of_validate hvalid
  have hload := Source.toSettings_toDocument hfinite []
  refine ⟨⟨s'.redacted.toDocument, []⟩, s'.redacted, s'.redacted, ?_, ?_, hload, hvalid, ?_⟩
  · exact Source.ofJson_toJson s'.redacted
  · exact Source.unknownKeys_toDocument s'.redacted
  · rw [redacted_idempotent]

namespace Invocation

/-- What a successful run prints as the settings is printed again from itself. -/
theorem validate_fixedPoint (fs : FileSystem) (path stamp : String)
    (overrides : List String) (logFormat : Log.Format) (logLevel : Log.Level)
    (h : (run ⟨.json, logFormat, logLevel, .validate path overrides⟩ fs stamp).code = 0) :
    ∃ report members v,
      (Session.validateFile fs path overrides).result = .ok report
      ∧ report.toJson = .object members ∧ members.lookup "config" = some v
      ∧ (run ⟨.json, logFormat, logLevel, .validate path overrides⟩ fs stamp).stdout
        = Text.unlines [(Json.object members).text]
      ∧ PrintsItself fs v := by
  obtain ⟨report, hreport, hstdout⟩ := exists_report_of_code_eq_zero h
  obtain ⟨s, s', hvalid, hsettings⟩ := Session.exists_validate_of_validateFile hreport
  have hprints := Settings.printsItself_redacted hvalid
  rw [← hsettings] at hprints
  exact ⟨report, _, report.settings.toJson, hreport, rfl, rfl, hstdout, hprints⟩

/-- The settings that are printed have no password and a chain with a name. -/
theorem validate_fixedPoint_overridden :
    let fs : FileSystem := ⟨fun _ => .ok "\x7b\x7d".toUTF8, fun _ => .ok ()⟩
    let overrides := ["database.host=h", "database.database=d", "database.user=u",
      "database.password=p", "probe.rpc=r", "probe.account-prefix=a", "probe.chain-id=c",
      "base.index-transactions=true", "base.start-block=1"]
    let printed : Settings := {
      database := { host := "h", database := "d", user := "u", password := "<redacted>" }
      probe := { rpc := "r", accountPrefix := "a", chainId := "c", chainName := "c" }
      base := { indexTransactions := true, startBlock := 1 } }
    (run ⟨.json, .text, .info, .validate "f" overrides⟩ fs "").code = 0
      ∧ (∃ report members, (Session.validateFile fs "f" overrides).result = .ok report
        ∧ report.toJson = .object members ∧ members.lookup "config" = some printed.toJson
        ∧ (run ⟨.json, .text, .info, .validate "f" overrides⟩ fs "").stdout
          = Text.unlines [(Json.object members).text])
      ∧ PrintsItself fs printed.toJson := by
  intro fs overrides printed
  have h : (run ⟨.json, .text, .info, .validate "f" overrides⟩ fs "").code = 0 := by
    decide +kernel
  have hprinted : (Session.validateFile fs "f" overrides).result.map ValidReport.settings
      = .ok printed := by
    decide +kernel
  obtain ⟨report, members, v, hreport, hmembers, hv, hstdout, hprints⟩ :=
    validate_fixedPoint fs "f" "" overrides .text .info h
  rw [hreport] at hprinted
  obtain rfl : v = printed.toJson := by
    obtain rfl := Json.object.inj hmembers
    rw [← Except.ok.inj hprinted]
    exact (Option.some.inj hv).symm
  exact ⟨h, ⟨report, members, hreport, hmembers, hv, hstdout⟩, hprints⟩

end Invocation

end IndexerSettings
