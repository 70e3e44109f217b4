import IndexerSettings.Files.Tree
import IndexerSettings.Proofs.Validation.Exactness

/-!
# The file of event filters

Validation asks the file system one question, about the path of the event
filters, and only where events are indexed and there is such a path.  Of all
answers one counts, that there is nothing at the path: `validate_congr`.  It is
asked last of all that valid settings have to meet, so settings with this answer
fail with the error that says so unless they fail without asking.

An answer that leaves open what is at the path, as where a part of it other than
the last is no directory, is not the one that counts (`validate_below_file`).
-/

namespace IndexerSettings

open Requirement

namespace Settings

variable {fs fs' : FileSystem} {s : Settings}

/-- Events are indexed, with a filter of which the file system says that there
is nothing at its path. -/
def MissesFilter (fs : FileSystem) (s : Settings) : Prop :=
  s.base.indexBlockEvents = true ∧ s.base.blockEventFilterFile ≠ ""
    ∧ fs.status s.base.blockEventFilterFile = .error .notFound

/-- All that valid settings meet besides having their filter is the same for all
file systems, and comes before it. -/
theorem exists_requirements_eq (s : Settings) :
    ∃ rs, ∀ fs, s.requirements fs
      = rs ++ [⟨¬s.MissesFilter fs, .filterFileMissing s.base.blockEventFilterFile⟩] := by
  refine ⟨s.database.requirements ++ s.probe.requirements
    ++ s.base.throttling.requirements ++ [
      ⟨s.base.indexTransactions = true ∨ s.base.indexBlockEvents = true, .nothingIndexed⟩,
      ⟨s.base.startBlock ≠ 0, .blockNotSet "base.start-block" s.base.startBlock⟩,
      ⟨s.base.endBlock ≠ 0, .blockNotSet "base.end-block" s.base.endBlock⟩], fun fs => ?_⟩
  simp only [requirements, BaseSettings.requirements, MissesFilter, List.append_assoc,
    List.cons_append, List.nil_append]

/-- Two file systems that agree on whether the filter is missing are the same to
validation. -/
theorem validate_congr (h : s.MissesFilter fs ↔ s.MissesFilter fs') :
    s.validate fs = s.validate fs' := by
  have hsame : s.requirements fs = s.requirements fs' := by
    obtain ⟨rs, hrs⟩ := s.exists_requirements_eq
    rw [hrs, hrs, propext h]
  have hdecides := validate_decides fs s
  rw [hsame] at hdecides
  exact hdecides.unique (validate_decides fs' s)

/-- Settings that miss their filter fail, with the error that says so or with one
that they have in every file system. -/
theorem validate_of_missesFilter (h : s.MissesFilter fs) :
    ∃ e, s.validate fs = .error e
      ∧ (e = .filterFileMissing s.base.blockEventFilterFile
        ∨ ∀ fs', s.validate fs' = .error e) := by
  obtain ⟨rs, hrs⟩ := s.exists_requirements_eq
  rcases validate_decides fs s with ⟨hmet, -⟩ | ⟨e, he, hvalidate⟩
  · rw [hrs] at hmet
    exact absurd h (List.forall_mem_append.mp hmet |>.2 _ List.mem_cons_self)
  · rw [hrs, firstUnmet_append] at he
    refine ⟨e, hvalidate, ?_⟩
    rcases he with he | ⟨-, he⟩
    · right
      intro fs'
      rw [(validate_decides fs' s).eq_error_iff, hrs]
      exact firstUnmet_append.mpr (.inl he)
    · left
      rcases firstUnmet_cons.mp he with ⟨-, rfl⟩ | ⟨-, hnil⟩
      · rfl
      · exact (not_firstUnmet_nil hnil).elim

/-- Where events are indexed with a filter, valid settings do not miss it: to the
question for its path, the file system did not answer that there is nothing.
Settings for which it does answer so are refused for the filter, unless they are
refused in every file system. -/
theorem validate_filter (hevents : s.base.indexBlockEvents = true)
    (hfilter : s.base.blockEventFilterFile ≠ "") :
    (∀ s', s.validate fs = .ok s' →
      fs.status s.base.blockEventFilterFile ≠ .error .notFound)
    ∧ (fs.status s.base.blockEventFilterFile = .error .notFound →
      ∃ e, s.validate fs = .error e
        ∧ (e = .filterFileMissing s.base.blockEventFilterFile
          ∨ ∀ fs', s.validate fs' = .error e)) := by
  refine ⟨fun s' hvalid hstatus => ?_, fun hstatus => ?_⟩
  · obtain ⟨e, herror, -⟩ := validate_of_missesFilter ⟨hevents, hfilter, hstatus⟩
    rw [hvalid] at herror
    cases herror
  · exact validate_of_missesFilter ⟨hevents, hfilter, hstatus⟩

/-- A filter that is there, and one that is not. -/
theorem validate_filter_there :
    let there : FileSystem := ⟨fun _ => .ok .empty, fun _ => .ok ()⟩
    let gone : FileSystem := ⟨fun _ => .error .notFound, fun _ => .error .notFound⟩
    let s : Settings := {
      database := { host := "h", database := "d", user := "u", password := "p" }
      probe := { rpc := "r", accountPrefix := "a", chainId := "c", chainName := "n" }
      base := {
        startBlock := 1, endBlock := 2
        indexBlockEvents := true, blockEventFilterFile := "f" } }
    s.base.indexBlockEvents = true ∧ s.base.blockEventFilterFile ≠ ""
      ∧ s.validate there = .ok s ∧ there.status "f" ≠ .error .notFound
      ∧ gone.status "f" = .error .notFound
      ∧ s.validate gone = .error (.filterFileMissing "f") := by
  intro there gone s
  have hfilter : s.base.blockEventFilterFile ≠ "" := by decide
  have hvalid : s.validate there = .ok s := by decide +kernel
  have hthere := (validate_filter rfl hfilter).1 s hvalid
  have hgone : gone.status s.base.blockEventFilterFile = .error .notFound := rfl
  refine ⟨rfl, hfilter, hvalid, hthere, hgone, ?_⟩
  obtain ⟨e, herror, rfl | hall⟩ := (validate_filter rfl hfilter).2 hgone
  · exact herror
  · rw [hall there] at hvalid
    cases hvalid

/-- A path that leads on below a file: what the file system says of it is not that
there is something, and yet the settings are valid.  To validation a file system
that says so of every path is the same. -/
theorem validate_below_file :
    let tree : FileTree := .directory [("f", .file .empty)]
    let fs := tree.toFileSystem []
    let s : Settings := {
      database := { host := "h", database := "d", user := "u", password := "p" }
      probe := { rpc := "r", accountPrefix := "a", chainId := "c", chainName := "n" }
      base := {
        startBlock := 1, endBlock := 2
        indexBlockEvents := true, blockEventFilterFile := "f/x" } }
    s.validate fs = .ok s ∧ s.base.indexBlockEvents = true
      ∧ s.base.blockEventFilterFile ≠ ""
      ∧ fs.status s.base.blockEventFilterFile = .error .notDirectory := by
  intro tree fs s
  have hresolve : tree.resolve [] "f/x" = .error .notDirectory := by
    have hparts : FileTree.parts "f/x" = ["f", "x"] := by
      simp +decide [FileTree.parts, String.splitOn, String.splitOnAux]
    rw [FileTree.resolve, if_neg (by simp), if_neg (by decide), if_neg (by decide),
      if_neg (by decide +kernel), hparts]
    rfl
  have hstatus : fs.status s.base.blockEventFilterFile = .error .notDirectory := by
    show (do let _ ← tree.resolve [] "f/x"; Except.ok ()) = _
    rw [hresolve]
    rfl
  let blocked : FileSystem := ⟨fun _ => .error .notDirectory, fun _ => .error .notDirectory⟩
  have hsame : s.MissesFilter fs ↔ s.MissesFilter blocked := by
    have hanswer : fs.status s.base.blockEventFilterFile
        = blocked.status s.base.blockEventFilterFile := hstatus
    rw [MissesFilter, MissesFilter, hanswer]
  have hvalid : s.validate fs = .ok s := by
    rw [validate_congr hsame]
    decide +kernel
  exact ⟨hvalid, rfl, by decide, hstatus⟩

end Settings

end IndexerSettings
