import Mathlib.Data.List.Basic
import IndexerSettings.Proofs.Outcome
import IndexerSettings.Proofs.Settings.Endpoint
import IndexerSettings.Proofs.Validation.Exactness

/-!
# Rules in any order

Rules applied to the same settings, whichever and as often as one likes, with
failures that stop nothing.  Two rules rewrite the settings, each a part that no
other rule reads, so what there is after some of them only depends on which they
were (`Rule.LeftBy`).  Every rule is therefore answered as if it were the first.
Only `probe` reads what it rewrites: the section that it leaves when it fails is
refused for the first field that is missing, and what it completes it accepts
again.
-/

namespace IndexerSettings

open Outcome (map_eq_ok_iff forM_eq_ok_iff)

variable {fs : FileSystem} {s t : Settings} {applied rules : List Rule} {r : Rule}

/-- The settings after some rules, kept or not. -/
def settingsAfter (fs : FileSystem) (s : Settings) (rules : List Rule) : Settings :=
  rules.foldl (fun s r => (r.apply fs s).settings) s

/-! ## Lists of verdicts -/

theorem applyRules_append (fs : FileSystem) (s : Settings) (before after : List Rule) :
    applyRules fs s (before ++ after)
      = applyRules fs s before ++ applyRules fs (settingsAfter fs s before) after := by
  induction before generalizing s with
  | nil => rfl
  | cons r rest ih =>
      rw [List.cons_append, applyRules, ih]
      rfl

theorem length_applyRules (fs : FileSystem) (s : Settings) (rules : List Rule) :
    (applyRules fs s rules).length = rules.length := by
  induction rules generalizing s with
  | nil => rfl
  | cons r rest ih => exact congrArg (· + 1) (ih (r.apply fs s).settings)

theorem getElem?_applyRules (fs : FileSystem) (s : Settings) (before : List Rule) (r : Rule)
    (after : List Rule) :
    (applyRules fs s (before ++ r :: after))[before.length]?
      = some (r.apply fs (settingsAfter fs s before)) := by
  have hlength := length_applyRules fs s before
  rw [applyRules_append, List.getElem?_append_right (le_of_eq hlength), hlength, Nat.sub_self]
  rfl

theorem mem_applyRules {v : Verdict} :
    v ∈ applyRules fs s rules ↔
      ∃ before r after, rules = before ++ r :: after
        ∧ v = r.apply fs (settingsAfter fs s before) := by
  constructor
  · intro hv
    induction rules generalizing s with
    | nil => cases hv
    | cons r rest ih =>
        rcases List.mem_cons.mp hv with rfl | hv
        · exact ⟨[], r, rest, rfl, rfl⟩
        · obtain ⟨before, r', after, rfl, rfl⟩ := ih hv
          exact ⟨r :: before, r', after, rfl, rfl⟩
  · rintro ⟨before, r, after, rfl, rfl⟩
    exact List.mem_of_getElem? (getElem?_applyRules fs s before r after)

theorem settingsAfter_append_singleton (fs : FileSystem) (s : Settings) (before : List Rule)
    (r : Rule) :
    settingsAfter fs s (before ++ [r]) = (r.apply fs (settingsAfter fs s before)).settings := by
  rw [settingsAfter, List.foldl_append]
  rfl

/-! ## The rule on probes -/

theorem ProbeSettings.check_eq (p : ProbeSettings) :
    p.check = (requireSet "probe" p.required).map fun _ => p.named := by
  rw [check]
  cases requireSet "probe" p.required <;> rfl

/-- A chain that goes by its identifier is named. -/
theorem ProbeSettings.named_named (p : ProbeSettings) : p.named.named = p.named := by
  rw [p.named_eq, named_eq]
  by_cases hname : p.chainName = ""
  · simp [hname]
  · simp [hname]

theorem Settings.completed_probe (s : Settings) : s.completed.probe = s.probe.named :=
  s.probe.named_eq.symm

/-- Settings that have all values of others but two, the section `probe` and the
address of the node. -/
def Settings.KeepsOthers (s t : Settings) : Prop :=
  t = { s with probe := t.probe, base := { s.base with api := t.base.api } }

namespace Settings.KeepsOthers

theorem withProbe (h : s.KeepsOthers t) (p : ProbeSettings) :
    s.KeepsOthers { t with probe := p } := by
  have heq := congrArg (fun u : Settings => { u with probe := p }) h
  exact heq

theorem withApi (h : s.KeepsOthers t) (api : String) :
    s.KeepsOthers { t with base := { t.base with api := api } } := by
  have heq := congrArg (fun u : Settings => { u with base := { u.base with api := api } }) h
  exact heq

end Settings.KeepsOthers

namespace Rule

theorem outcome_probe (fs : FileSystem) (s : Settings) :
    (probe.apply fs s).outcome = requireSet "probe" s.probe.required := by
  rw [apply, s.probe.check_eq]
  cases requireSet "probe" s.probe.required <;> rfl

theorem settings_probe_of_ok (h : (probe.apply fs s).outcome = .ok ()) :
    (probe.apply fs s).settings = { s with probe := s.probe.named } := by
  rw [outcome_probe] at h
  rw [apply, s.probe.check_eq, h]
  rfl

theorem settings_probe_of_error {e : ValidationError} (h : (probe.apply fs s).outcome = .error e) :
    (probe.apply fs s).settings = { s with probe := {} } := by
  rw [outcome_probe] at h
  rw [apply, s.probe.check_eq, h]
  rfl

/-! ## What rules leave -/

/-- Settings as they are after some rules, in whatever order and however often
they were applied. -/
structure LeftBy (fs : FileSystem) (s : Settings) (applied : List Rule) (t : Settings) : Prop where
  others : s.KeepsOthers t
  api : t.base.api =
    if apiEndpoint ∈ applied then Endpoint.withDefaultPort s.base.api else s.base.api
  untouched : probe ∉ applied → t.probe = s.probe
  named : probe ∈ applied → (probe.apply fs s).outcome = .ok () → t.probe = s.completed.probe
  lost : probe ∈ applied → ∀ e, (probe.apply fs s).outcome = .error e → t.probe = {}

namespace LeftBy

theorem nil (fs : FileSystem) (s : Settings) : LeftBy fs s [] s where
  others := rfl
  api := rfl
  untouched _ := rfl
  named := nofun
  lost := nofun

theorem outcome_eq (h : LeftBy fs s applied t) (hr : r ≠ probe ∨ probe ∉ applied) :
    (r.apply fs t).outcome = (r.apply fs s).outcome := by
  cases r with
  | probe =>
      have hprobe : probe ∉ applied := hr.resolve_left (not_not.mpr rfl)
      rw [outcome_probe, outcome_probe, h.untouched hprobe]
  | _ =>
      rw [h.others]
      rfl

theorem outcome_eq_of_notMem (h : LeftBy fs s applied t) (hnew : r ∉ applied) :
    (r.apply fs t).outcome = (r.apply fs s).outcome := by
  by_cases hr : r = probe
  · exact h.outcome_eq (.inr (hr ▸ hnew))
  · exact h.outcome_eq (.inl hr)

/-- The name that is filled in is not required. -/
theorem outcome_probe_of_ok (h : LeftBy fs s applied t) (hprobe : probe ∈ applied)
    (hok : (probe.apply fs s).outcome = .ok ()) : (probe.apply fs t).outcome = .ok () := by
  have hrequired : s.completed.probe.required = s.probe.required := rfl
  rw [outcome_probe, h.named hprobe hok, hrequired, ← outcome_probe fs]
  exact hok

theorem outcome_probe_of_error (h : LeftBy fs s applied t) (hprobe : probe ∈ applied)
    {e : ValidationError} (herror : (probe.apply fs s).outcome = .error e) :
    (probe.apply fs t).outcome = .error (.badSection "probe" "rpc" .notSet) := by
  rw [outcome_probe, h.lost hprobe e herror]
  rfl

/-! ### One more rule -/

theorem named_probe (h : LeftBy fs s applied t) (hok : (probe.apply fs s).outcome = .ok ()) :
    t.probe.named = s.completed.probe := by
  by_cases hprobe : probe ∈ applied
  · rw [h.named hprobe hok, s.completed_probe, ProbeSettings.named_named]
  · rw [h.untouched hprobe, s.completed_probe]

theorem step_probe (h : LeftBy fs s applied t) :
    LeftBy fs s (applied ++ [probe]) (probe.apply fs t).settings := by
  have hmem : probe ∈ applied ++ [probe] := List.mem_append_right _ List.mem_cons_self
  have hapi : apiEndpoint ∈ applied ++ [probe] ↔ apiEndpoint ∈ applied := by simp
  cases hs : (probe.apply fs s).outcome with
  | ok u =>
      have ht : (probe.apply fs t).outcome = .ok () := by
        by_cases hprobe : probe ∈ applied
        · exact h.outcome_probe_of_ok hprobe hs
        · rw [h.outcome_eq (.inr hprobe), hs]
      rw [settings_probe_of_ok ht]
      refine ⟨h.others.withProbe _, ?_, fun hnot => absurd hmem hnot,
        fun _ _ => h.named_probe hs, fun _ e he => ?_⟩
      · simp only [hapi, h.api]
      · rw [hs] at he
        cases he
  | error e =>
      obtain ⟨e', ht⟩ : ∃ e', (probe.apply fs t).outcome = .error e' := by
        by_cases hprobe : probe ∈ applied
        · exact ⟨_, h.outcome_probe_of_error hprobe hs⟩
        · exact ⟨e, (h.outcome_eq (.inr hprobe)).trans hs⟩
      rw [settings_probe_of_error ht]
      refine ⟨h.others.withProbe {}, ?_, fun hnot => absurd hmem hnot,
        fun _ hok => ?_, fun _ _ _ => rfl⟩
      · simp only [hapi, h.api]
      · rw [hs] at hok
        cases hok

theorem step_apiEndpoint (h : LeftBy fs s applied t) :
    LeftBy fs s (applied ++ [apiEndpoint]) (apiEndpoint.apply fs t).settings := by
  have hmem : apiEndpoint ∈ applied ++ [apiEndpoint] := List.mem_append_right _ List.mem_cons_self
  have hprobe : probe ∈ applied ++ [apiEndpoint] ↔ probe ∈ applied := by simp
  have hport : Endpoint.withDefaultPort t.base.api = Endpoint.withDefaultPort s.base.api := by
    rw [h.api]
    split
    · exact Endpoint.withDefaultPort_idempotent s.base.api
    · rfl
  refine ⟨h.others.withApi _, ?_, ?_, ?_, ?_⟩
  · rw [if_pos hmem]
    exact hport
  · exact fun hnot => h.untouched (fun hin => hnot (hprobe.mpr hin))
  · exact fun hin => h.named (hprobe.mp hin)
  · exact fun hin => h.lost (hprobe.mp hin)

/-- The other rules rewrite nothing. -/
theorem step_of_ne (h : LeftBy fs s applied t) (hprobe : r ≠ probe) (hapi : r ≠ apiEndpoint) :
    LeftBy fs s (applied ++ [r]) t := by
  have hmem : ∀ q, q ≠ r → (q ∈ applied ++ [r] ↔ q ∈ applied) := by
    intro q hq
    simp [hq]
  refine ⟨h.others, ?_, ?_, ?_, ?_⟩
  · simp only [hmem _ hapi.symm, h.api]
  · exact fun hnot => h.untouched (fun hin => hnot ((hmem _ hprobe.symm).mpr hin))
  · exact fun hin => h.named ((hmem _ hprobe.symm).mp hin)
  · exact fun hin => h.lost ((hmem _ hprobe.symm).mp hin)

theorem step (h : LeftBy fs s applied t) (r : Rule) :
    LeftBy fs s (applied ++ [r]) (r.apply fs t).settings := by
  cases r with
  | probe => exact h.step_probe
  | apiEndpoint => exact h.step_apiEndpoint
  | _ => exact h.step_of_ne nofun nofun

theorem eq_completed (h : LeftBy fs s applied t) (hprobe : probe ∈ applied)
    (hapi : apiEndpoint ∈ applied) (hok : (probe.apply fs s).outcome = .ok ()) :
    t = s.completed := by
  have hothers : t = { s with probe := t.probe, base := { s.base with api := t.base.api } } :=
    h.others
  rw [hothers, h.named hprobe hok, h.api, if_pos hapi]
  rfl

end LeftBy

/-- By induction on the last rule, since the others are applied before it. -/
theorem leftBy_settingsAfter (fs : FileSystem) (s : Settings) (rules : List Rule) :
    LeftBy fs s rules (settingsAfter fs s rules) := by
  induction rules using List.reverseRecOn with
  | nil => exact .nil fs s
  | append_singleton before r ih =>
      rw [settingsAfter_append_singleton]
      exact ih.step r

/-! ## Rules as if each were the first -/

theorem outcome_of_forall_ok (h : ∀ v ∈ applyRules fs s rules, v.outcome = .ok ())
    (hr : r ∈ rules) : (r.apply fs s).outcome = .ok () := by
  obtain ⟨before, after, rfl, hfirst⟩ := List.eq_append_cons_of_mem hr
  rw [← (leftBy_settingsAfter fs s before).outcome_eq_of_notMem hfirst]
  exact h _ (mem_applyRules.mpr ⟨before, r, after, rfl, rfl⟩)

/-- Rules of which none comes twice are checked as if each were the first. -/
theorem map_checkRules (h : LeftBy fs s applied t) (hnd : (applied ++ rules).Nodup) :
    (checkRules fs t rules).map (fun _ => ()) = forM rules fun r => (r.apply fs s).outcome := by
  induction rules generalizing applied t with
  | nil => rfl
  | cons r rest ih =>
      have hnew : r ∉ applied := fun hin =>
        (List.nodup_append.mp hnd).2.2 r hin r List.mem_cons_self rfl
      rw [checkRules_cons, List.forM_cons, ← h.outcome_eq_of_notMem hnew]
      cases (r.apply fs t).outcome with
      | error e => rfl
      | ok u =>
          rw [List.append_cons] at hnd
          exact ih (h.step r) hnd

end Rule

namespace Settings

theorem map_validate (fs : FileSystem) (s : Settings) :
    (s.validate fs).map (fun _ => ()) = forM Rule.all fun r => (r.apply fs s).outcome := by
  have hnd : ([] ++ Rule.all).Nodup := by decide
  exact Rule.map_checkRules (.nil fs s) hnd

/-- Settings are valid exactly if they keep every rule as they are. -/
theorem exists_validate_iff :
    (∃ s', s.validate fs = .ok s') ↔ ∀ r : Rule, (r.apply fs s).outcome = .ok () := by
  have hrules : ∀ r : Rule, r ∈ Rule.all := by
    intro r
    cases r <;> decide
  have hmap : (∃ s', s.validate fs = .ok s') ↔ (s.validate fs).map (fun _ => ()) = .ok () := by
    simp [map_eq_ok_iff]
  rw [hmap, map_validate, forM_eq_ok_iff]
  exact ⟨fun h r => h r (hrules r), fun h r _ => h r⟩

theorem validate_of_outcomes (h : ∀ r : Rule, (r.apply fs s).outcome = .ok ()) :
    s.validate fs = .ok s.completed := by
  obtain ⟨s', hvalid⟩ := exists_validate_iff.mpr h
  obtain ⟨-, rfl⟩ := (validate_decides fs s).eq_ok_iff.mp hvalid
  exact hvalid

end Settings

/-- Rules applied in any order, any number of times.  After each of them the
settings are those given but for what the rules so far have rewritten; each is
answered as it would be on the settings given, except that `probe`, once it has
failed, goes on to fail for want of an address.  Where all rules are among them
and all are kept, what is left is what validation gives. -/
theorem applyRules_anyOrder (fs : FileSystem) (s : Settings) (rules : List Rule) :
    (applyRules fs s rules).length = rules.length
    ∧ (∀ before r after, rules = before ++ r :: after →
        ∃ v, (applyRules fs s rules)[before.length]? = some v
          ∧ Rule.LeftBy fs s (before ++ [r]) v.settings
          ∧ (r ≠ .probe ∨ .probe ∉ before → v.outcome = (r.apply fs s).outcome)
          ∧ (r = .probe → .probe ∈ before → (r.apply fs s).outcome = .ok () →
            v.outcome = .ok ())
          ∧ (r = .probe → .probe ∈ before → ∀ e, (r.apply fs s).outcome = .error e →
            v.outcome = .error (.badSection "probe" "rpc" .notSet)))
    ∧ ((∀ r : Rule, r ∈ rules) → (∀ v ∈ applyRules fs s rules, v.outcome = .ok ()) →
        ∃ v, (applyRules fs s rules).getLast? = some v ∧ s.validate fs = .ok v.settings) := by
  refine ⟨length_applyRules fs s rules, ?_, fun hrules hok => ?_⟩
  · rintro before r after rfl
    have hleft := Rule.leftBy_settingsAfter fs s before
    refine ⟨_, getElem?_applyRules fs s before r after, hleft.step r, hleft.outcome_eq, ?_, ?_⟩
    · rintro rfl hprobe hs
      exact hleft.outcome_probe_of_ok hprobe hs
    · rintro rfl hprobe e hs
      exact hleft.outcome_probe_of_error hprobe hs
  · have houtcomes : ∀ r : Rule, (r.apply fs s).outcome = .ok () :=
      fun r => Rule.outcome_of_forall_ok hok (hrules r)
    rcases rules.eq_nil_or_concat' with rfl | ⟨before, r, rfl⟩
    · exact absurd (hrules .probe) List.not_mem_nil
    · refine ⟨r.apply fs (settingsAfter fs s before), ?_, ?_⟩
      · rw [applyRules_append]
        exact List.getLast?_concat
      · have hleft := (Rule.leftBy_settingsAfter fs s before).step r
        rw [Settings.validate_of_outcomes houtcomes,
          hleft.eq_completed (hrules _) (hrules _) (houtcomes .probe)]

theorem applyRules_anyOrder_backwards :
    let fs : FileSystem := ⟨fun _ => .error .notFound, fun _ => .error .notDirectory⟩
    let s : Settings := {
      database := { host := "h", database := "d", user := "u", password := "p" }
      probe := { rpc := "r", accountPrefix := "a", chainId := "c" }
      base := {
        api := "http://n", startBlock := 1
        indexBlockEvents := true, blockEventFilterFile := "f" } }
    let unnamed : Settings := { s with probe := { rpc := "r", accountPrefix := "a" } }
    let rules : List Rule := .probe :: .probe :: Rule.all.reverse
    (∀ r : Rule, r ∈ rules) ∧ (∀ v ∈ applyRules fs s rules, v.outcome = .ok ())
      ∧ (∃ v, (applyRules fs s rules).getLast? = some v ∧ s.validate fs = .ok v.settings)
      ∧ (Rule.probe.apply fs s).outcome = .ok ()
      ∧ (∃ v, (applyRules fs s rules)[1]? = some v ∧ v.outcome = .ok ())
      ∧ (Rule.probe.apply fs unnamed).outcome = .error (.badSection "probe" "chain-id" .notSet)
      ∧ ∃ v, (applyRules fs unnamed rules)[1]? = some v
        ∧ v.settings = { unnamed with probe := {} }
        ∧ v.outcome = .error (.badSection "probe" "rpc" .notSet) := by
  intro fs s unnamed rules
  have hrules : ∀ r : Rule, r ∈ rules := by
    intro r
    cases r <;> decide
  have hok : ∀ v ∈ applyRules fs s rules, v.outcome = .ok () := by decide +kernel
  have hprobe : (Rule.probe.apply fs s).outcome = .ok () := by decide +kernel
  have hunnamed : (Rule.probe.apply fs unnamed).outcome
      = .error (.badSection "probe" "chain-id" .notSet) := by decide +kernel
  obtain ⟨-, hverdicts, hlast⟩ := applyRules_anyOrder fs s rules
  obtain ⟨v, hv, -, -, hsecond, -⟩ := hverdicts [.probe] .probe Rule.all.reverse rfl
  obtain ⟨-, hverdicts', -⟩ := applyRules_anyOrder fs unnamed rules
  obtain ⟨w, hw, hleft, -, -, hsecond'⟩ := hverdicts' [.probe] .probe Rule.all.reverse rfl
  refine ⟨hrules, hok, hlast hrules hok, hprobe,
    ⟨v, hv, hsecond rfl (List.mem_singleton_self _) hprobe⟩, hunnamed, w, hw, ?_,
    hsecond' rfl (List.mem_singleton_self _) _ hunnamed⟩
  have hothers : w.settings = { unnamed with
      probe := w.settings.probe, base := { unnamed.base with api := w.settings.base.api } } :=
    hleft.others
  rw [hothers, hleft.lost (by decide) _ hunnamed, hleft.api]
  rfl

end IndexerSettings
