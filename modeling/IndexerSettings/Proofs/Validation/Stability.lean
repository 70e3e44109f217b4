import IndexerSettings.Proofs.Settings.Endpoint
import IndexerSettings.Proofs.Validation.AnyOrder

/-!
# Valid settings stay valid

Completing settings a second time changes nothing, nor does covering the
password again.  Neither touches what the other does, and what they put in
place is what the requirements ask for: valid settings, completed, are valid as
they are, with their password or without it.
-/

namespace IndexerSettings

open Requirement

/-- A rule that complete settings keep changes nothing about them. -/
theorem Rule.apply_of_completed {fs : FileSystem} {s : Settings} {r : Rule}
    (hs : s.completed = s) (h : (r.apply fs s).outcome = .ok ()) : r.apply fs s = ⟨s, .ok ()⟩ := by
  suffices hsettings : (r.apply fs s).settings = s by
    rw [← h]
    exact congrArg (Verdict.mk · (r.apply fs s).outcome) hsettings
  cases r with
  | probe =>
      have hprobe : s.probe.named = s.probe := by rw [← s.completed_probe, hs]
      rw [settings_probe_of_ok h, hprobe]
  | apiEndpoint =>
      have hapi : Endpoint.withDefaultPort s.base.api = s.base.api :=
        congrArg (fun t : Settings => t.base.api) hs
      show { s with base := { s.base with api := Endpoint.withDefaultPort s.base.api } } = s
      rw [hapi]
  | _ => rfl

namespace Settings

theorem completed_idempotent (s : Settings) : s.completed.completed = s.completed := by
  simp only [completed, Endpoint.withDefaultPort_idempotent]
  by_cases hname : s.probe.chainName = ""
  · simp [hname]
  · simp [hname]

theorem redacted_idempotent (s : Settings) : s.redacted.redacted = s.redacted := by
  unfold redacted
  by_cases hempty : s.database.password.isEmpty = true
  · rw [if_pos hempty, if_pos hempty]
  · have hcovered : redactedPassword.isEmpty = false := by decide
    rw [if_neg hempty]
    simp [hcovered]

/-- Two sections are completed, and the password is in a third. -/
theorem completed_redacted (s : Settings) : s.redacted.completed = s.completed.redacted := by
  have hpassword : s.completed.database = s.database := rfl
  unfold redacted
  rw [hpassword]
  split
  · rfl
  · rfl

/-- What is completed is not what requirements are about. -/
theorem requirements_completed (fs : FileSystem) (s : Settings) :
    s.completed.requirements fs = s.requirements fs := rfl

theorem requirements_redacted {fs : FileSystem} {s : Settings}
    (h : ∀ r ∈ s.requirements fs, r.met) : ∀ r ∈ s.redacted.requirements fs, r.met := by
  have hcovered : IsSet redactedPassword := by
    rw [IsSet]
    decide
  unfold redacted
  split
  · exact h
  · simp only [requirements, DatabaseSettings.requirements, List.cons_append,
      List.forall_mem_cons] at h ⊢
    obtain ⟨hhost, hport, hdatabase, huser, -, hrest⟩ := h
    exact ⟨hhost, hport, hdatabase, huser, hcovered, hrest⟩

/-- Nothing is left to complete in completed settings, and they meet what they
met before. -/
theorem validate_completed {fs : FileSystem} {s : Settings}
    (h : ∀ r ∈ s.requirements fs, r.met) : s.completed.validate fs = .ok s.completed := by
  refine (validate_decides fs _).eq_ok_iff.mpr ⟨?_, s.completed_idempotent.symm⟩
  rw [requirements_completed]
  exact h

/-- Valid settings, completed and with the password covered, are valid and
complete. -/
theorem validate_redacted {fs : FileSystem} {s s' : Settings}
    (h : s.validate fs = .ok s') : s'.redacted.validate fs = .ok s'.redacted := by
  obtain ⟨hmet, rfl⟩ := (validate_decides fs s).eq_ok_iff.mp h
  rw [← completed_redacted]
  exact validate_completed (requirements_redacted hmet)

/-- What validation gives is valid, and validation gives it back: every rule keeps
it and changes nothing about it. -/
theorem validate_idempotent {fs : FileSystem} {s s' : Settings} (h : s.validate fs = .ok s') :
    s'.validate fs = .ok s' ∧ ∀ r : Rule, r.apply fs s' = ⟨s', .ok ()⟩ := by
  obtain ⟨hmet, rfl⟩ := (validate_decides fs s).eq_ok_iff.mp h
  have hvalid := validate_completed hmet
  refine ⟨hvalid, fun r => ?_⟩
  have hkept := exists_validate_iff.mp ⟨_, hvalid⟩ r
  exact Rule.apply_of_completed s.completed_idempotent hkept

/-- An address that ends in a colon, a chain that goes by its identifier, and a
filter that could not be looked up. -/
theorem validate_idempotent_colon :
    let fs : FileSystem := ⟨fun _ => .error .notFound, fun _ => .error .notDirectory⟩
    let s : Settings := {
      database := { host := "h", database := "d", user := "u", password := "p" }
      probe := { rpc := "r", accountPrefix := "a", chainId := "c" }
      base := {
        api := "https:", startBlock := -1
        indexBlockEvents := true, blockEventFilterFile := "f" } }
    let s' : Settings := { s with
      probe := { s.probe with chainName := "c" }, base := { s.base with api := "https::443" } }
    s.validate fs = .ok s' ∧ s'.validate fs = .ok s'
      ∧ ∀ r : Rule, r.apply fs s' = ⟨s', .ok ()⟩ := by
  intro fs s s'
  have hvalid : s.validate fs = .ok s' := by decide +kernel
  exact ⟨hvalid, validate_idempotent hvalid⟩

/-- The pause between requests is a number that can be written. -/
theorem isFinite_of_validate {fs : FileSystem} {s s' : Settings}
    (h : s.validate fs = .ok s') : s'.base.throttling.throttling.isFinite = true := by
  obtain ⟨hmet, rfl⟩ := (validate_decides fs s).eq_ok_iff.mp h
  have hthrottling := hmet ⟨s.base.throttling.throttling.isFinite = true
      ∧ s.base.throttling.throttling.isBelowZero = false,
    .badSection "throttling" "throttling" (.noDuration s.base.throttling.throttling)⟩
    (by simp [requirements, ThrottlingSettings.requirements])
  exact hthrottling.1

end Settings

end IndexerSettings
