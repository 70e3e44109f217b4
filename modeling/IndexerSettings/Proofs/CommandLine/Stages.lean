import IndexerSettings.CommandLine.Run
import IndexerSettings.Proofs.Outcome

/-!
# Stages of a session

The result of a session is that of its stages one after the other, without the
events in between.  Every stage that fails does so with the error of the
operation in it.  No such failure ends in success, so the exit code of a run
tells whether there was one.
-/

namespace IndexerSettings

open Outcome (map_eq_error_iff)

/-! ## Results of sessions -/

namespace Session

variable {α β : Type}

theorem result_bind (x : Session α) (f : α → Session β) :
    (x >>= f).result = x.result >>= fun a => (f a).result := by
  show (andThen x f).result = _
  unfold andThen
  cases x.result with
  | error e => rfl
  | ok a => rfl

theorem result_applyOverrides (r : Registry) (s : Source) (overrides : List String) :
    (applyOverrides r s overrides).result
      = (s.overrideAll r overrides).mapError (.ofLoadError "invalid --set") := by
  induction overrides generalizing s with
  | nil => rfl
  | cons assignment rest ih =>
      have hall : s.overrideAll r (assignment :: rest)
          = s.override r assignment >>= fun s => s.overrideAll r rest := List.foldlM_cons ..
      rw [applyOverrides, result_bind, hall]
      show (s.override r assignment).mapError _ >>= _ = _
      cases s.override r assignment with
      | error e => rfl
      | ok s' => exact ih s'

/-- The stages of `validate`. -/
theorem result_validateFile (fs : FileSystem) (path : String) (overrides : List String) :
    (validateFile fs path overrides).result = (do
      let source ← (Source.ofFile fs path).mapError (.ofLoadError "failed to load config")
      let source ← (source.overrideAll .indexer overrides).mapError
        (.ofLoadError "invalid --set")
      let settings ← source.toSettings.mapError (.ofLoadError "failed to load config")
      let settings ← (settings.validate fs).mapError .ofValidationError
      return ⟨path, Registry.indexer.unknownKeys source.suppliedKeys, settings.redacted⟩) := by
  simp only [validateFile, result_bind, result_applyOverrides]
  rfl

/-- The stages of `check-keys`. -/
theorem result_checkKeys (fs : FileSystem) (path : String) :
    (checkKeys fs path).result = (do
      let source ← (Source.ofFile fs path).mapError (.ofLoadError "failed to load config")
      let supplied := source.suppliedKeys
      return ⟨path, supplied.length, Registry.indexer.unknownKeys supplied⟩) := by
  simp only [checkKeys, result_bind]
  rfl

theorem result_ofCommand_validate (fs : FileSystem) (format : OutputFormat) (path : String)
    (overrides : List String) :
    (ofCommand fs format (.validate path overrides)).result
      = (validateFile fs path overrides).result.map (·.lines format) := by
  rw [ofCommand, result_bind]
  cases (validateFile fs path overrides).result <;> rfl

theorem result_ofCommand_checkKeys (fs : FileSystem) (format : OutputFormat) (path : String) :
    (ofCommand fs format (.checkKeys path)).result
      = (checkKeys fs path).result.map (·.lines format) := by
  rw [ofCommand, result_bind]
  cases (checkKeys fs path).result <;> rfl

end Session

/-! ## Failures -/

namespace Failure

theorem status_ofFileError (context : String) (e : FileError) :
    (ofFileError context e).status ≠ .success := by
  unfold ofFileError fileStatus
  split <;> simp

theorem status_ofLoadError (context : String) (e : LoadError) :
    (ofLoadError context e).status ≠ .success := by
  cases e with
  | unreadable path e => exact status_ofFileError _ e
  | _ => simp [ofLoadError]

theorem status_ofValidationError (e : ValidationError) :
    (ofValidationError e).status ≠ .success := by
  simp [ofValidationError]

/-- A result that is no failure called success. -/
def Honest {α : Type} (x : Except Failure α) : Prop :=
  ∀ f, x = .error f → f.status ≠ .success

theorem Honest.bind {α β : Type} {x : Except Failure α} {f : α → Except Failure β}
    (hx : Honest x) (hf : ∀ a, Honest (f a)) : Honest (x >>= f) := by
  cases x with
  | error e =>
      intro g hg
      obtain rfl := Except.error.inj hg
      exact hx e rfl
  | ok a => exact hf a

theorem Honest.map {α β : Type} {x : Except Failure α} (hx : Honest x) (f : α → β) :
    Honest (x.map f) := by
  intro g hg
  exact hx g (map_eq_error_iff.mp hg)

theorem honest_mapError {ε α : Type} {asFailure : ε → Failure}
    (h : ∀ e, (asFailure e).status ≠ .success) (x : Except ε α) :
    Honest (x.mapError asFailure) := by
  intro f hf
  cases x with
  | error e =>
      obtain rfl := Except.error.inj hf
      exact h e
  | ok a => cases hf

end Failure

namespace Session

theorem honest_validateFile (fs : FileSystem) (path : String) (overrides : List String) :
    Failure.Honest (validateFile fs path overrides).result := by
  have hload := fun context => Failure.status_ofLoadError context
  rw [result_validateFile]
  refine .bind (Failure.honest_mapError (hload _) _) fun source => ?_
  refine .bind (Failure.honest_mapError (hload _) _) fun source => ?_
  refine .bind (Failure.honest_mapError (hload _) _) fun settings => ?_
  refine .bind (Failure.honest_mapError Failure.status_ofValidationError _) fun settings => ?_
  intro f hf
  cases hf

theorem honest_checkKeys (fs : FileSystem) (path : String) :
    Failure.Honest (checkKeys fs path).result := by
  rw [result_checkKeys]
  refine .bind (Failure.honest_mapError (Failure.status_ofLoadError _) _) fun source => ?_
  intro f hf
  cases hf

theorem honest_ofCommand_validate (fs : FileSystem) (format : OutputFormat) (path : String)
    (overrides : List String) :
    Failure.Honest (ofCommand fs format (.validate path overrides)).result := by
  rw [result_ofCommand_validate]
  exact (honest_validateFile fs path overrides).map _

theorem honest_ofCommand_checkKeys (fs : FileSystem) (format : OutputFormat) (path : String) :
    Failure.Honest (ofCommand fs format (.checkKeys path)).result := by
  rw [result_ofCommand_checkKeys]
  exact (honest_checkKeys fs path).map _

end Session

/-! ## Runs -/

theorem ExitStatus.eq_success_of_code_eq_zero {status : ExitStatus} (h : status.code = 0) :
    status = .success := by
  cases status with
  | success => rfl
  | _ => cases h

namespace Invocation

variable {i : Invocation} {fs : FileSystem} {stamp : String}

theorem run_of_ok {lines : List String}
    (h : (Session.ofCommand fs i.format i.command).result = .ok lines) :
    i.run fs stamp = ⟨0, Text.unlines lines, Text.unlines (Log.lines i.logFormat i.logLevel stamp
      (Session.ofCommand fs i.format i.command).events)⟩ := by
  simp only [run, h]
  rfl

theorem run_of_error {f : Failure}
    (h : (Session.ofCommand fs i.format i.command).result = .error f) :
    i.run fs stamp = ⟨f.status.code, "", Text.unlines (Log.lines i.logFormat i.logLevel stamp
      (Session.ofCommand fs i.format i.command).events ++ ["error: " ++ f.message])⟩ := by
  simp only [run, h]

theorem code_run_eq_zero_iff
    (hhonest : Failure.Honest (Session.ofCommand fs i.format i.command).result) :
    (i.run fs stamp).code = 0 ↔
      ∃ lines, (Session.ofCommand fs i.format i.command).result = .ok lines := by
  cases h : (Session.ofCommand fs i.format i.command).result with
  | ok lines => simp [run_of_ok h]
  | error f =>
      have hcode : f.status.code ≠ 0 :=
        fun hzero => hhonest f h (ExitStatus.eq_success_of_code_eq_zero hzero)
      simp [run_of_error h, hcode]

end Invocation

end IndexerSettings
