import IndexerSettings.Proofs.CommandLine.Stages
import IndexerSettings.Proofs.Source.Refusing
import IndexerSettings.Proofs.Validation.Failing

/-!
# The first fault

What can be wrong with a file, its overrides and its settings, in the order in
which `validate` comes to it: the file is read, its text is JSON, the JSON is an
object, the overrides fit, the values fit, and the rules are kept.  The first
fault alone decides how the run ends (`Invocation.validate_firstFault`).  Where
several things are wrong at once, what is said of the later ones is nothing.

The command `check-keys` goes as far as the object.
-/

namespace IndexerSettings

open Outcome (map_eq_ok_iff map_eq_error_iff mapError_eq_ok_iff mapError_eq_error_iff bind_eq_ok_iff
  bind_eq_error_iff mapError_mapError mapError_bind map_bind)

/-! ## Faults -/

/-- The text of a file is that of a JSON object, as a document. -/
def FileSystem.Holds (fs : FileSystem) (path : String) (d : Document) : Prop :=
  ∃ text members, fs.readText path = .ok text ∧ Json.ofText text = .ok (.object members)
    ∧ d = .ofMembers members

/-- What is wrong, by stages. -/
inductive Fault
  | unreadable (error : FileError)
  | malformed (error : Json.SyntaxError)
  | notAnObject
  /-- An override is not accepted. -/
  | refused (error : LoadError)
  | mismatch (mismatch : Mismatch)
  /-- A rule is not kept. -/
  | invalid (error : ValidationError)

namespace Fault

/-- What a run ends with: for a file that cannot be read this depends on the
system's number for the error, and for overrides on whether they or the document
are to blame. -/
def exitCode : Fault → Nat
  | unreadable (.system 2) => 1
  | unreadable (.system 1) | unreadable (.system 13) => 50
  | unreadable _ => 125
  | refused (.malformedOverride ..) | refused (.unknownKey ..) | refused (.invalidOverride ..) => 64
  | malformed _ | notAnObject | refused _ | mismatch _ | invalid _ => 60

def message (path : String) : Fault → String
  | unreadable e => "failed to load config " ++ path ++ ": " ++ e.message
  | malformed e => "failed to load config: failed to parse config: " ++ e.message
  | notAnObject => "failed to load config: config root must be a JSON object"
  | refused e => "invalid --set: " ++ e.message
  | mismatch m => "failed to load config: failed to parse config: " ++ m.message
  | invalid e => "config validation failed [" ++ e.kind ++ "]: " ++ e.message

/-- How the command is made to end by a fault. -/
def failure (path : String) : Fault → Failure
  | unreadable e => .ofLoadError "failed to load config" (.unreadable path e)
  | malformed e => .ofLoadError "failed to load config" (.malformed e)
  | notAnObject => .ofLoadError "failed to load config" .notAnObject
  | refused e => .ofLoadError "invalid --set" e
  | mismatch m => .ofLoadError "failed to load config" (.mismatch m)
  | invalid e => .ofValidationError e

end Fault

/-- The first fault: all stages before its own are passed.  An override is refused
or not by the document as it was read, and a rule kept or not by the settings as
they were loaded, whatever other overrides and rules have done to them since. -/
inductive FirstFault (fs : FileSystem) (path : String) (overrides : List String) : Fault → Prop
  | read {e : FileError} (h : fs.readText path = .error e) :
      FirstFault fs path overrides (.unreadable e)
  | parse {text : String} {e : Json.SyntaxError} (htext : fs.readText path = .ok text)
      (h : Json.ofText text = .error e) : FirstFault fs path overrides (.malformed e)
  | root {text : String} {j : Json} (htext : fs.readText path = .ok text)
      (hj : Json.ofText text = .ok j) (h : ∀ members, j ≠ .object members) :
      FirstFault fs path overrides .notAnObject
  | override {d : Document} {before after : List String} {assignment : String} {e : LoadError}
      (hd : fs.Holds path d) (hoverrides : overrides = before ++ assignment :: after)
      (hbefore : ∀ b ∈ before, ∀ e, ¬d.Refuses b e) (h : d.Refuses assignment e) :
      FirstFault fs path overrides (.refused e)
  | load {d : Document} {src : Source} {m : Mismatch} (hd : fs.Holds path d)
      (hsrc : Source.overrideAll ⟨d, []⟩ .indexer overrides = .ok src)
      (h : Settings.ofDocument src.document = .error m) :
      FirstFault fs path overrides (.mismatch m)
  | rule {d : Document} {src : Source} {s : Settings} {before after : List Rule} {r : Rule}
      {e : ValidationError} (hd : fs.Holds path d)
      (hsrc : Source.overrideAll ⟨d, []⟩ .indexer overrides = .ok src)
      (hs : Settings.ofDocument src.document = .ok s) (hrules : Rule.all = before ++ r :: after)
      (hbefore : ∀ q ∈ before, (q.apply fs s).outcome = .ok ())
      (h : (r.apply fs s).outcome = .error e) : FirstFault fs path overrides (.invalid e)

/-- All stages are passed. -/
def Faultless (fs : FileSystem) (path : String) (overrides : List String) : Prop :=
  ∃ d src s, fs.Holds path d ∧ Source.overrideAll ⟨d, []⟩ .indexer overrides = .ok src
    ∧ Settings.ofDocument src.document = .ok s ∧ ∀ r : Rule, (r.apply fs s).outcome = .ok ()

/-! ## Stages -/

namespace Source

variable {src : Source} {j : Json}

theorem ofJson_eq_ok_iff :
    ofJson j = .ok src ↔ ∃ members, j = .object members ∧ src = ⟨.ofMembers members, []⟩ := by
  cases j with
  | object members =>
      simp only [ofJson, Document.ofJson?, Except.ok.injEq, Json.object.injEq, exists_eq_left']
      exact eq_comm
  | _ => simp [ofJson, Document.ofJson?]

theorem ofJson_eq_error_iff {e : LoadError} :
    ofJson j = .error e ↔ e = .notAnObject ∧ ∀ members, j ≠ .object members := by
  cases j with
  | object members => simp [ofJson, Document.ofJson?]
  | _ => simp [ofJson, Document.ofJson?, eq_comm]

end Source

namespace Fault

variable {fs : FileSystem} {path : String} {overrides : List String} {f : Fault} {src : Source}

/-- The stages that lead to a source: reading, parsing, and the root. -/
def sourceStages (fs : FileSystem) (path : String) : Except Fault Source := do
  let text ← (fs.readText path).mapError unreadable
  let j ← (Json.ofText text).mapError malformed
  (Source.ofJson j).mapError fun _ => notAnObject

/-- All stages, to the settings completed. -/
def stages (fs : FileSystem) (path : String) (overrides : List String) : Except Fault Settings := do
  let src ← sourceStages fs path
  let src ← (src.overrideAll .indexer overrides).mapError refused
  let s ← (Settings.ofDocument src.document).mapError mismatch
  (s.validate fs).mapError invalid

theorem sourceStages_eq_ok_iff :
    sourceStages fs path = .ok src ↔ ∃ d, fs.Holds path d ∧ src = ⟨d, []⟩ := by
  simp only [sourceStages, bind_eq_ok_iff, mapError_eq_ok_iff, Source.ofJson_eq_ok_iff]
  constructor
  · rintro ⟨text, htext, j, hj, members, rfl, rfl⟩
    exact ⟨_, ⟨text, members, htext, hj, rfl⟩, rfl⟩
  · rintro ⟨d, ⟨text, members, htext, hj, rfl⟩, rfl⟩
    exact ⟨text, htext, _, hj, members, rfl, rfl⟩

theorem sourceStages_eq_error_iff :
    sourceStages fs path = .error f ↔
      (∃ e, fs.readText path = .error e ∧ unreadable e = f)
      ∨ ∃ text, fs.readText path = .ok text
        ∧ ((∃ e, Json.ofText text = .error e ∧ malformed e = f)
          ∨ ∃ j, Json.ofText text = .ok j ∧ (∀ members, j ≠ .object members)
            ∧ notAnObject = f) := by
  simp only [sourceStages, bind_eq_error_iff, mapError_eq_error_iff, mapError_eq_ok_iff,
    Source.ofJson_eq_error_iff, and_assoc, exists_eq_left]

/-- The first stage that fails is that of the first fault. -/
theorem stages_eq_error_iff :
    stages fs path overrides = .error f ↔ FirstFault fs path overrides f := by
  simp only [stages, bind_eq_error_iff, mapError_eq_error_iff, mapError_eq_ok_iff,
    sourceStages_eq_error_iff, sourceStages_eq_ok_iff, Source.overrideAll_eq_error_iff,
    Settings.validate_eq_error_iff]
  constructor
  · rintro ((⟨e, h, rfl⟩ | ⟨text, htext, ⟨e, h, rfl⟩ | ⟨j, hj, h, rfl⟩⟩)
      | ⟨_, ⟨d, hd, rfl⟩, ⟨e, ⟨before, a, after, hoverrides, hbefore, h⟩, rfl⟩
        | ⟨src, hsrc, ⟨m, h, rfl⟩ | ⟨s, hs, e, ⟨before, r, after, hrules, hbefore, h⟩, rfl⟩⟩⟩)
    · exact .read h
    · exact .parse htext h
    · exact .root htext hj h
    · exact .override hd hoverrides hbefore h
    · exact .load hd hsrc h
    · exact .rule hd hsrc hs hrules hbefore h
  · rintro (h | ⟨htext, h⟩ | ⟨htext, hj, h⟩ | ⟨hd, hoverrides, hbefore, h⟩ | ⟨hd, hsrc, h⟩
      | ⟨hd, hsrc, hs, hrules, hbefore, h⟩)
    · exact .inl (.inl ⟨_, h, rfl⟩)
    · exact .inl (.inr ⟨_, htext, .inl ⟨_, h, rfl⟩⟩)
    · exact .inl (.inr ⟨_, htext, .inr ⟨_, hj, h, rfl⟩⟩)
    · exact .inr ⟨_, ⟨_, hd, rfl⟩, .inl ⟨_, ⟨_, _, _, hoverrides, hbefore, h⟩, rfl⟩⟩
    · exact .inr ⟨_, ⟨_, hd, rfl⟩, .inr ⟨_, hsrc, .inl ⟨_, h, rfl⟩⟩⟩
    · exact .inr ⟨_, ⟨_, hd, rfl⟩,
        .inr ⟨_, hsrc, .inr ⟨_, hs, _, ⟨_, _, _, hrules, hbefore, h⟩, rfl⟩⟩⟩

theorem exists_stages_iff :
    (∃ s, stages fs path overrides = .ok s) ↔ Faultless fs path overrides := by
  simp only [stages, bind_eq_ok_iff, mapError_eq_ok_iff, sourceStages_eq_ok_iff, Faultless,
    ← Settings.exists_validate_iff]
  constructor
  · rintro ⟨s', _, ⟨d, hd, rfl⟩, src, hsrc, s, hs, hvalid⟩
    exact ⟨d, src, s, hd, hsrc, hs, s', hvalid⟩
  · rintro ⟨d, src, s, hd, hsrc, hs, s', hvalid⟩
    exact ⟨s', _, ⟨d, hd, rfl⟩, src, hsrc, s, hs, hvalid⟩

/-! ## Ends of runs -/

theorem mapError_sourceStages (fs : FileSystem) (path : String) :
    (sourceStages fs path).mapError (failure path)
      = (Source.ofFile fs path).mapError (.ofLoadError "failed to load config") := by
  rw [sourceStages, Source.ofFile, mapError_bind, mapError_mapError]
  cases fs.readText path with
  | error e => rfl
  | ok text =>
      show ((Json.ofText text).mapError malformed >>= _).mapError _
        = (Source.ofText text).mapError _
      rw [Source.ofText, mapError_bind, mapError_mapError]
      cases Json.ofText text with
      | error e => rfl
      | ok j => cases j <;> rfl

/-- With errors told as failures, both are the same sequence of operations. -/
theorem map_result_validateFile (fs : FileSystem) (path : String) (overrides : List String) :
    (Session.validateFile fs path overrides).result.map (·.settings)
      = ((stages fs path overrides).mapError (failure path)).map Settings.redacted := by
  simp only [Session.result_validateFile, stages, mapError_bind, mapError_sourceStages,
    mapError_mapError, Source.toSettings_eq, map_bind]
  rfl

theorem result_validateFile_eq_error_iff {F : Failure} :
    (Session.validateFile fs path overrides).result = .error F ↔
      ∃ f, FirstFault fs path overrides f ∧ f.failure path = F := by
  rw [← map_eq_error_iff (f := (·.settings)), map_result_validateFile, map_eq_error_iff,
    mapError_eq_error_iff]
  simp only [stages_eq_error_iff]

theorem exists_validateFile_iff :
    (∃ report, (Session.validateFile fs path overrides).result = .ok report) ↔
      Faultless fs path overrides := by
  have hsame := map_result_validateFile fs path overrides
  rw [← exists_stages_iff]
  constructor
  · rintro ⟨report, hreport⟩
    rw [hreport] at hsame
    obtain ⟨s, hs, -⟩ := map_eq_ok_iff.mp hsame.symm
    exact ⟨s, mapError_eq_ok_iff.mp hs⟩
  · rintro ⟨s, hs⟩
    rw [hs] at hsame
    obtain ⟨report, hreport, -⟩ := map_eq_ok_iff.mp hsame
    exact ⟨report, hreport⟩

theorem code_fileStatus (e : FileError) :
    (Failure.fileStatus e).code = (unreadable e).exitCode := by
  unfold Failure.fileStatus
  split
  · rfl
  · rfl
  · rfl
  · rename_i hperm hacces hmissing
    rw [exitCode]
    · rfl
    · exact hmissing
    · exact hperm
    · exact hacces

theorem code_failure (h : FirstFault fs path overrides f) :
    (f.failure path).status.code = f.exitCode := by
  cases h with
  | @read e h => exact code_fileStatus e
  | override hd hoverrides hbefore h => cases h <;> rfl
  | _ => rfl

theorem message_failure (h : FirstFault fs path overrides f) :
    (f.failure path).message = f.message path := by
  cases h with
  | override hd hoverrides hbefore h => cases h <;> rfl
  | _ => rfl

theorem exists_ofFile_iff :
    (∃ src, Source.ofFile fs path = .ok src) ↔ ∃ d, fs.Holds path d := by
  have hok : ∀ src, Source.ofFile fs path = .ok src ↔ sourceStages fs path = .ok src := by
    intro src
    rw [← mapError_eq_ok_iff, ← mapError_sourceStages, mapError_eq_ok_iff]
  simp only [hok, sourceStages_eq_ok_iff]
  constructor
  · rintro ⟨src, d, hd, -⟩
    exact ⟨d, hd⟩
  · rintro ⟨d, hd⟩
    exact ⟨_, d, hd, rfl⟩

end Fault

theorem not_faultless_iff {fs : FileSystem} {path : String} {overrides : List String} :
    ¬Faultless fs path overrides ↔ ∃ f, FirstFault fs path overrides f := by
  simp only [← Fault.exists_stages_iff, ← Fault.stages_eq_error_iff]
  cases Fault.stages fs path overrides <;> simp

theorem FirstFault.unique {fs : FileSystem} {path : String} {overrides : List String} {f f' : Fault}
    (h : FirstFault fs path overrides f) (h' : FirstFault fs path overrides f') : f = f' := by
  rw [← Fault.stages_eq_error_iff] at h h'
  exact Except.error.inj (h.symm.trans h')

namespace Invocation

variable {fs : FileSystem} {path stamp : String} {overrides : List String} {format : OutputFormat}
  {logFormat : Log.Format} {logLevel : Log.Level}

theorem run_of_firstFault {f : Fault} (h : FirstFault fs path overrides f) :
    run ⟨format, logFormat, logLevel, .validate path overrides⟩ fs stamp
      = ⟨f.exitCode, "", Text.unlines (Log.lines logFormat logLevel stamp
        (Session.ofCommand fs format (.validate path overrides)).events
          ++ ["error: " ++ f.message path])⟩ := by
  have hfile := Fault.result_validateFile_eq_error_iff.mpr ⟨f, h, rfl⟩
  have hcommand : (Session.ofCommand fs format (.validate path overrides)).result
      = .error (f.failure path) := by
    rw [Session.result_ofCommand_validate, hfile]
    rfl
  rw [← Fault.code_failure h, ← Fault.message_failure h]
  exact run_of_error hcommand

theorem code_validate_eq_zero_iff :
    (run ⟨format, logFormat, logLevel, .validate path overrides⟩ fs stamp).code = 0 ↔
      Faultless fs path overrides := by
  rw [code_run_eq_zero_iff (Session.honest_ofCommand_validate fs format path overrides),
    ← Fault.exists_validateFile_iff]
  simp only [Session.result_ofCommand_validate, map_eq_ok_iff]
  constructor
  · rintro ⟨lines, report, hreport, -⟩
    exact ⟨report, hreport⟩
  · rintro ⟨report, hreport⟩
    exact ⟨_, report, hreport, rfl⟩

theorem code_checkKeys_eq_zero_iff :
    (run ⟨format, logFormat, logLevel, .checkKeys path⟩ fs stamp).code = 0 ↔
      ∃ d, fs.Holds path d := by
  rw [code_run_eq_zero_iff (Session.honest_ofCommand_checkKeys fs format path),
    ← Fault.exists_ofFile_iff]
  simp only [Session.result_ofCommand_checkKeys, Session.result_checkKeys]
  cases Source.ofFile fs path with
  | ok src => exact ⟨fun _ => ⟨src, rfl⟩, fun _ => ⟨_, rfl⟩⟩
  | error e => exact ⟨nofun, nofun⟩

/-- Where not all stages are passed there is one first fault, and a run of
`validate` ends by it: with the exit code that stands for it, nothing on standard
output, and after the log what the fault is.  It succeeds exactly if all stages
are passed, and `check-keys` exactly if the file holds an object. -/
theorem validate_firstFault (fs : FileSystem) (path stamp : String) (overrides : List String)
    (format : OutputFormat) (logFormat : Log.Format) (logLevel : Log.Level) :
    let finished := run ⟨format, logFormat, logLevel, .validate path overrides⟩ fs stamp
    let log := Log.lines logFormat logLevel stamp
      (Session.ofCommand fs format (.validate path overrides)).events
    (∀ f, FirstFault fs path overrides f →
      finished.code = f.exitCode ∧ finished.stdout = ""
        ∧ finished.stderr = Text.unlines (log ++ ["error: " ++ f.message path]))
    ∧ (finished.code = 0 ↔ Faultless fs path overrides)
    ∧ (¬Faultless fs path overrides ↔ ∃ f, FirstFault fs path overrides f)
    ∧ (∀ f f', FirstFault fs path overrides f → FirstFault fs path overrides f' → f = f')
    ∧ ((run ⟨format, logFormat, logLevel, .checkKeys path⟩ fs stamp).code = 0 ↔
      ∃ d, fs.Holds path d) := by
  intro finished log
  refine ⟨fun f hf => ?_, code_validate_eq_zero_iff, not_faultless_iff,
    fun f f' => FirstFault.unique, code_checkKeys_eq_zero_iff⟩
  have hrun : finished = ⟨f.exitCode, "", Text.unlines (log ++ ["error: " ++ f.message path])⟩ :=
    run_of_firstFault hf
  rw [hrun]
  exact ⟨rfl, rfl, rfl⟩

/-- The second override goes into a section that is no object.  Nothing is said
of the third, which has no equals sign, of the address that is a number, and of
the settings, which would not be valid. -/
theorem validate_firstFault_section :
    let fs : FileSystem :=
      ⟨fun _ => .ok "\x7b\"base\":\x7b\"api\":1\x7d,\"log\":1\x7d".toUTF8, fun _ => .ok ()⟩
    let overrides := ["base.start-block=1", "log.level=x", "nope"]
    let finished := run ⟨.json, .text, .error, .validate "f" overrides⟩ fs ""
    FirstFault fs "f" overrides (.refused (.sectionNotObject "log"))
    ∧ finished.code = 60 ∧ finished.stdout = ""
    ∧ finished.stderr = "error: invalid --set: config section log must be a JSON object\n"
    ∧ (run ⟨.json, .text, .error, .checkKeys "f"⟩ fs "").code = 0 := by
  intro fs overrides finished
  let d : Document := .ofMembers [("base", .object [("api", .ofCount 1)]), ("log", .ofCount 1)]
  have hd : fs.Holds "f" d := ⟨_, _, by rfl, by rfl, rfl⟩
  have hbefore : ∀ b ∈ ["base.start-block=1"], ∀ e, ¬d.Refuses b e := by
    intro b hb
    obtain rfl := List.mem_singleton.mp hb
    have hanswer : (Source.mk d []).answer .indexer "base.start-block=1" = .ok () := by
      decide +kernel
    exact Source.answer_indexer_eq_ok_iff.mp hanswer
  have hanswer : (Source.mk d []).answer .indexer "log.level=x"
      = .error (.sectionNotObject "log") := by decide +kernel
  have hfault : FirstFault fs "f" overrides (.refused (.sectionNotObject "log")) :=
    .override hd rfl hbefore (Source.answer_indexer_eq_error_iff.mp hanswer)
  obtain ⟨hends, -, -, -, hcheckKeys⟩ := validate_firstFault fs "f" "" overrides .json .text .error
  obtain ⟨hcode, hstdout, hstderr⟩ := hends _ hfault
  exact ⟨hfault, hcode, hstdout, hstderr.trans (by decide +kernel), hcheckKeys.mpr ⟨d, hd⟩⟩

end Invocation

end IndexerSettings
