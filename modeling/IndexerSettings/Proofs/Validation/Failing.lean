import IndexerSettings.Proofs.Outcome
import IndexerSettings.Proofs.Validation.AnyOrder

/-!
# Rules that fail

A rule that fails leaves the settings as they were, but for one: `probe` takes
its section out before it looks at it, and does not put it back.  What it was
given is gone then, and the rule, applied again, misses the first of its fields
whichever it missed before (`Rule.apply_error_exact`).

Validation does not come to see this, since it ends with the first rule that
fails.  What it reports is the error of the first rule that the settings given
do not keep (`Settings.validate_eq_error_iff`).
-/

namespace IndexerSettings

open Outcome (map_eq_error_iff forM_eq_error_iff)

variable {fs : FileSystem} {s : Settings} {r : Rule} {e : ValidationError}

namespace Rule

/-- Six rules leave the settings as they were when they fail. -/
theorem settings_of_error (hr : r ≠ probe) (h : (r.apply fs s).outcome = .error e) :
    (r.apply fs s).settings = s := by
  cases r with
  | probe => exact absurd rfl hr
  | apiEndpoint => cases h
  | _ => rfl

/-- A section as it is by default misses its first field. -/
theorem outcome_probe_default (fs : FileSystem) (s : Settings) :
    (probe.apply fs { s with probe := {} }).outcome
      = .error (.badSection "probe" "rpc" .notSet) := by
  rw [outcome_probe]
  rfl

theorem with_default_probe_eq_iff : { s with probe := {} } = s ↔ s.probe = {} := by
  constructor
  · intro h
    rw [← h]
  · intro h
    rw [← h]

/-- A rule that has failed: the settings it leaves, when these are the ones it
was given, and how it fails when it is applied to them. -/
theorem apply_error_exact (h : (r.apply fs s).outcome = .error e) :
    (r ≠ probe → (r.apply fs s).settings = s)
    ∧ (r = probe → (r.apply fs s).settings = { s with probe := {} })
    ∧ ((r.apply fs s).settings = s ↔ r ≠ probe ∨ s.probe = {})
    ∧ (r.apply fs (r.apply fs s).settings).outcome
        = .error (if r = probe then .badSection "probe" "rpc" .notSet else e) := by
  by_cases hr : r = probe
  · subst hr
    have hlost := settings_probe_of_error h
    refine ⟨fun hne => absurd rfl hne, fun _ => hlost, ?_, ?_⟩
    · rw [hlost, with_default_probe_eq_iff]
      simp
    · rw [hlost, outcome_probe_default, if_pos rfl]
  · have hkept := settings_of_error hr h
    refine ⟨fun _ => hkept, fun heq => absurd heq hr, ?_, ?_⟩
    · simp [hkept, hr]
    · rw [hkept, h, if_neg hr]

/-- A database without a host, and a chain without an identifier. -/
theorem apply_error_exact_database_probe :
    let fs : FileSystem := ⟨fun _ => .error .notFound, fun _ => .error .notFound⟩
    let s : Settings := { probe := { rpc := "r", accountPrefix := "a" } }
    (database.apply fs s).outcome = .error (.badSection "database" "host" .notSet)
      ∧ (database.apply fs s).settings = s
      ∧ (probe.apply fs s).outcome = .error (.badSection "probe" "chain-id" .notSet)
      ∧ (probe.apply fs s).settings = {}
      ∧ (probe.apply fs {}).outcome = .error (.badSection "probe" "rpc" .notSet) := by
  intro fs s
  have hdatabase : (database.apply fs s).outcome
      = .error (.badSection "database" "host" .notSet) := by decide +kernel
  have hprobe : (probe.apply fs s).outcome
      = .error (.badSection "probe" "chain-id" .notSet) := by decide +kernel
  obtain ⟨hkept, -, -, -⟩ := apply_error_exact hdatabase
  obtain ⟨-, hlost, -, hagain⟩ := apply_error_exact hprobe
  have hsettings : (probe.apply fs s).settings = {} := hlost rfl
  rw [hsettings] at hagain
  exact ⟨hdatabase, hkept nofun, hprobe, hsettings, hagain⟩

/-- A section that only misses its prefix is lost with the rule that says so. -/
theorem apply_probe_loses_section :
    let fs : FileSystem := ⟨fun _ => .error .notFound, fun _ => .error .notFound⟩
    let s : Settings := {
      probe := { rpc := "https://rpc.example.com:443", chainId := "cosmoshub-4" } }
    (probe.apply fs s).outcome = .error (.badSection "probe" "account-prefix" .notSet)
      ∧ (probe.apply fs s).settings ≠ s := by
  intro fs s
  refine ⟨by decide +kernel, fun heq => ?_⟩
  have hrpc := congrArg (fun t : Settings => t.probe.rpc) heq
  exact absurd hrpc (by decide +kernel)

end Rule

/-- The error of settings that are not valid is that of the first rule that they
do not keep. -/
theorem Settings.validate_eq_error_iff :
    s.validate fs = .error e ↔
      ∃ before r after, Rule.all = before ++ r :: after
        ∧ (∀ q ∈ before, (q.apply fs s).outcome = .ok ()) ∧ (r.apply fs s).outcome = .error e := by
  rw [← forM_eq_error_iff, ← map_validate, map_eq_error_iff]

end IndexerSettings
