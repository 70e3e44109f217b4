import IndexerSettings.CommandLine.Run
import IndexerSettings.Proofs.CommandLine.Stages
import IndexerSettings.Proofs.Source.Masking

/-!
# The password stays secret

Every stage of `validate` follows the view in which passwords are masked: it logs
the same, it fails with the same message, and what it gives looks the same.  What
is shown in the end is in the view, so runs that differ in the password alone are
the same to whoever watches them.
-/

namespace IndexerSettings

open Outcome (mapError_map)

/-! ## Rules -/

variable {fs fs' : FileSystem}

theorem DatabaseSettings.check_masked (s : DatabaseSettings) : s.masked.check = s.check := by
  have hrequired : requireSet "database" s.masked.required = requireSet "database" s.required := by
    simp only [required, requireSet, masked, isBlankText_maskText]
  rw [check, check, hrequired]
  rfl

/-- A rule does not look into the password, and leaves it as it is. -/
theorem Rule.apply_masked (hstatus : fs'.status = fs.status) (s : Settings) (r : Rule) :
    r.apply fs' s.masked = ⟨(r.apply fs s).settings.masked, (r.apply fs s).outcome⟩ := by
  cases r with
  | database => exact congrArg (Verdict.mk s.masked) s.database.check_masked
  | probe =>
      have hprobe : s.masked.probe = s.probe := rfl
      rw [apply, apply, hprobe]
      cases s.probe.check <;> rfl
  | filterFile =>
      simp only [apply, judge, checkFilterFile, hstatus]
      rfl
  | _ => rfl

theorem checkRules_masked (hstatus : fs'.status = fs.status) (s : Settings) (rules : List Rule) :
    checkRules fs' s.masked rules = (checkRules fs s rules).map .masked := by
  induction rules generalizing s with
  | nil => rfl
  | cons r rest ih =>
      rw [checkRules_cons, checkRules_cons, r.apply_masked hstatus]
      cases (r.apply fs s).outcome with
      | error e => rfl
      | ok u => exact ih _

theorem Log.ofRules_masked (hstatus : fs'.status = fs.status) (s : Settings)
    (rules : List Rule) : ofRules fs' s.masked rules = ofRules fs s rules := by
  induction rules generalizing s with
  | nil => rfl
  | cons r rest ih =>
      rw [ofRules, ofRules, r.apply_masked hstatus]
      cases (r.apply fs s).outcome with
      | error e => rfl
      | ok u =>
          show _ ++ rulePassed r :: ofRules fs' (r.apply fs s).settings.masked rest = _
          rw [ih]
          rfl

/-! ## Sessions in a view -/

namespace Session

variable {α β γ : Type}

/-- A session of which the result is seen in some view. -/
def map (v : α → β) (x : Session α) : Session β := ⟨x.events, x.result.map v⟩

theorem map_bind (x : Session α) (f : α → Session β) (v : β → γ) :
    (x >>= f).map v = x >>= fun a => (f a).map v := by
  show (andThen x f).map v = andThen x _
  unfold andThen
  cases x.result <;> rfl

theorem map_attempt {ε : Type} (asFailure : ε → Failure) (r : Except ε α) (v : α → β) :
    (attempt asFailure r).map v = attempt asFailure (r.map v) := by
  rw [attempt, attempt, map, mapError_map]

/-- Sessions that look the same go on in the same way, if they do so for results
that look the same. -/
theorem bind_congr {v : α → γ} {x y : Session α} {f g : α → Session β} (h : x.map v = y.map v)
    (hfg : ∀ a b, y.result = .ok b → v a = v b → f a = g b) : x >>= f = y >>= g := by
  obtain ⟨events, result⟩ := x
  obtain ⟨events', result'⟩ := y
  obtain ⟨rfl, hresult⟩ := Session.mk.inj h
  show andThen _ f = andThen _ g
  cases result with
  | error e =>
      cases result' with
      | error e' =>
          obtain rfl := Except.error.inj hresult
          rfl
      | ok b => cases hresult
  | ok a =>
      cases result' with
      | error e' => cases hresult
      | ok b =>
          have hab : f a = g b := hfg a b rfl (Except.ok.inj hresult)
          show (⟨events ++ (f a).events, (f a).result⟩ : Session β) = ⟨_, (g b).result⟩
          rw [hab]

/-! ## Stages -/

open Source (SameFile SameOverride)

theorem map_readSource {path : String} (h : SameFile fs fs' path) :
    (readSource fs' path).map Source.masked = (readSource fs path).map Source.masked := by
  simp only [readSource, map_bind, map_attempt, h.map_ofFile]

theorem map_applyOverrides {overrides overrides' : List String}
    (h : List.Forall₂ SameOverride overrides overrides') {s s' : Source}
    (hs : s'.masked = s.masked) :
    (applyOverrides .indexer s' overrides').map Source.masked
      = (applyOverrides .indexer s overrides).map Source.masked := by
  induction h generalizing s s' with
  | nil =>
      show done s'.masked = done s.masked
      rw [hs]
  | @cons assignment assignment' _ _ hfirst _ ih =>
      have hevents : (Assignment.ofText? assignment').map (fun a => Log.overrideApplied a.key)
          = (Assignment.ofText? assignment).map fun a => Log.overrideApplied a.key := by
        have hkeys := congrArg (Option.map Log.overrideApplied) hfirst.map_key
        rw [Option.map_map, Option.map_map] at hkeys
        exact hkeys
      rw [applyOverrides, applyOverrides, map_bind, map_bind, hevents]
      refine bind_congr (v := Source.masked) ?_ fun s₁' s₁ _ hs₁ => ?_
      · rw [map_attempt, map_attempt, hfirst.map_override hs]
      · rw [map_bind, map_bind]
        exact bind_congr (v := id) rfl fun _ _ _ _ => ih hs₁

theorem validate_masked (hstatus : fs'.status = fs.status) (s : Settings) :
    validate fs' s.masked = (validate fs s).map Settings.masked := by
  have hvalid : s.masked.validate fs' = (s.validate fs).map Settings.masked :=
    checkRules_masked hstatus s Rule.all
  rw [validate, validate, map, Log.ofRules_masked hstatus, hvalid, mapError_map]

theorem map_validate (hstatus : fs'.status = fs.status) {s s' : Settings}
    (hs : s'.masked = s.masked) :
    (validate fs' s').map Settings.masked = (validate fs s).map Settings.masked := by
  rw [← validate_masked rfl s', hs, validate_masked hstatus s]

theorem validateFile_congr (hstatus : fs'.status = fs.status) {path : String}
    (hfile : SameFile fs fs' path) {overrides overrides' : List String}
    (hoverrides : List.Forall₂ SameOverride overrides overrides') :
    validateFile fs' path overrides' = validateFile fs path overrides := by
  unfold validateFile
  refine bind_congr (v := id) rfl fun registry r hregistry hr => ?_
  obtain rfl : registry = r := hr
  obtain rfl : Registry.indexer = registry := Except.ok.inj hregistry
  refine bind_congr (map_readSource hfile) fun s' s _ hs => ?_
  refine bind_congr (map_applyOverrides hoverrides hs) fun s' s _ hs => ?_
  have hkeys : s'.suppliedKeys = s.suppliedKeys := by
    rw [← s'.suppliedKeys_masked, hs, s.suppliedKeys_masked]
  rw [hkeys]
  refine bind_congr (v := id) rfl fun _ _ _ _ => ?_
  have hread : s'.toSettings.map Settings.masked = s.toSettings.map .masked := by
    rw [← s'.toSettings_masked, hs, s.toSettings_masked]
  refine bind_congr (v := Settings.masked) ?_ fun t' t _ ht => ?_
  · rw [map_attempt, map_attempt, hread]
  refine bind_congr (map_validate hstatus ht) fun t' t _ ht => ?_
  refine bind_congr (v := id) rfl fun _ _ _ _ => ?_
  have hshown : t'.redacted = t.redacted := by
    rw [← t'.redacted_masked, ht, t.redacted_masked]
  rw [hshown]

end Session

/-! ## Runs -/

namespace Invocation

/-- Runs of `validate` on files, or with overrides, that differ in a password that
is set end in the same way and write the same, in every format and at every level
of the log. -/
theorem validate_hidesPassword {path : String} {overrides overrides' : List String}
    (hstatus : fs'.status = fs.status) (hfile : Source.SameFile fs fs' path)
    (hoverrides : List.Forall₂ Source.SameOverride overrides overrides')
    (format : OutputFormat) (logFormat : Log.Format) (logLevel : Log.Level) (stamp : String) :
    run ⟨format, logFormat, logLevel, .validate path overrides'⟩ fs' stamp
      = run ⟨format, logFormat, logLevel, .validate path overrides⟩ fs stamp := by
  have hsession : Session.ofCommand fs' format (.validate path overrides')
      = Session.ofCommand fs format (.validate path overrides) := by
    rw [Session.ofCommand, Session.ofCommand,
      Session.validateFile_congr hstatus hfile hoverrides]
  rw [run, run, hsession]

theorem validate_hidesPassword_overridden :
    let file (password : String) : String :=
      "\x7b\"database\":\x7b\"password\":\"" ++ password ++ "\"\x7d\x7d"
    let fs : FileSystem := ⟨fun _ => .ok (file "p").toUTF8, fun _ => .ok ()⟩
    let fs' : FileSystem := ⟨fun _ => .ok (file "q q").toUTF8, fun _ => .ok ()⟩
    let others := ["database.host=h", "database.database=d", "database.user=u", "probe.rpc=r",
      "probe.account-prefix=a", "probe.chain-id=c", "base.index-transactions=true",
      "base.start-block=1"]
    let overrides := "database.password=r" :: others
    let overrides' := " database.password =s=" :: others
    fs'.status = fs.status ∧ Source.SameFile fs fs' "f"
      ∧ List.Forall₂ Source.SameOverride overrides overrides'
      ∧ (run ⟨.json, .text, .debug, .validate "f" overrides⟩ fs "").code = 0
      ∧ run ⟨.json, .text, .debug, .validate "f" overrides'⟩ fs' ""
        = run ⟨.json, .text, .debug, .validate "f" overrides⟩ fs "" := by
  intro file fs fs' others overrides overrides'
  have hset : ∀ s ∈ ["p", "q q", "r", "s="], IsSet s := by
    simp only [IsSet]
    decide
  let d : Document := .ofMembers [("database", .object [("password", .ofString "p")])]
  let d' : Document := .ofMembers [("database", .object [("password", .ofString "q q")])]
  have hd : Source.ofFile fs "f" = .ok ⟨d, []⟩ := by decide +kernel
  have hd' : Source.ofFile fs' "f" = .ok ⟨d', []⟩ := by decide +kernel
  have hput : d.put? "database" "password" (.string "q q") = some d' := rfl
  have hfile : Source.SameFile fs fs' "f" :=
    .password hd hd' rfl hput (hset "p" (by simp)) (hset "q q" (by simp))
  have hpassword : Source.SameOverride "database.password=r" " database.password =s=" :=
    .password rfl rfl rfl rfl (hset "r" (by simp)) (hset "s=" (by simp))
  have hoverrides : List.Forall₂ Source.SameOverride overrides overrides' :=
    .cons hpassword (List.forall₂_same.mpr fun _ _ => .same)
  have hstatus : fs'.status = fs.status := rfl
  have hcode : (run ⟨.json, .text, .debug, .validate "f" overrides⟩ fs "").code = 0 := by
    decide +kernel
  exact ⟨hstatus, hfile, hoverrides, hcode,
    validate_hidesPassword hstatus hfile hoverrides .json .text .debug ""⟩

end Invocation

end IndexerSettings
