import IndexerSettings.Validation.Error

/-!
# Requirements

Conditions in the order in which they count, each with the error of settings
that do not meet it.  A check that goes through them in this order and stops
at the first that is not met *decides* the list (`Decides`); checks that
follow one another decide the lists behind one another (`Decides.bind`).
-/

namespace IndexerSettings

/-- A condition, and the error that stands for it where it is not met. -/
structure Requirement where
  met : Prop
  error : ValidationError

namespace Requirement

variable {α β : Type} {rs qs : List Requirement}

/-- `e` is the error of the first requirement that is not met: all before it
are. -/
def FirstUnmet (rs : List Requirement) (e : ValidationError) : Prop :=
  ∃ before r after, rs = before ++ r :: after ∧ (∀ q ∈ before, q.met)
    ∧ ¬r.met ∧ e = r.error

theorem not_firstUnmet_nil {e : ValidationError} : ¬FirstUnmet [] e := by
  rintro ⟨before, r, after, heq, -⟩
  simp at heq

theorem firstUnmet_cons {r : Requirement} {e : ValidationError} :
    FirstUnmet (r :: rs) e ↔
      (¬r.met ∧ e = r.error) ∨ (r.met ∧ FirstUnmet rs e) := by
  constructor
  · rintro ⟨before, q, after, heq, hbefore, hq, rfl⟩
    cases before with
    | nil =>
        obtain ⟨rfl, rfl⟩ := List.cons.inj heq
        exact .inl ⟨hq, rfl⟩
    | cons p before =>
        obtain ⟨rfl, rfl⟩ := List.cons.inj heq
        obtain ⟨hr, hbefore⟩ := List.forall_mem_cons.mp hbefore
        exact .inr ⟨hr, before, q, after, rfl, hbefore, hq, rfl⟩
  · rintro (⟨hr, rfl⟩ | ⟨hr, before, q, after, rfl, hbefore, hq, rfl⟩)
    · exact ⟨[], r, rs, rfl, nofun, hr, rfl⟩
    · exact ⟨r :: before, q, after, rfl,
        List.forall_mem_cons.mpr ⟨hr, hbefore⟩, hq, rfl⟩

theorem FirstUnmet.unique {e e' : ValidationError} (h : FirstUnmet rs e)
    (h' : FirstUnmet rs e') : e = e' := by
  induction rs with
  | nil => exact (not_firstUnmet_nil h).elim
  | cons r rs ih =>
      rcases firstUnmet_cons.mp h with ⟨hr, rfl⟩ | ⟨hr, h⟩ <;>
        rcases firstUnmet_cons.mp h' with ⟨hr', rfl⟩ | ⟨hr', h'⟩
      · rfl
      · exact absurd hr' hr
      · exact absurd hr hr'
      · exact ih h h'

theorem FirstUnmet.not_all_met {e : ValidationError} (h : FirstUnmet rs e) :
    ¬∀ r ∈ rs, r.met := by
  obtain ⟨before, r, after, rfl, -, hr, -⟩ := h
  exact fun hall => hr (hall r (by simp))

/-- What is not met first is in the first list, or in the second if the first is
met. -/
theorem firstUnmet_append {e : ValidationError} :
    FirstUnmet (rs ++ qs) e ↔
      FirstUnmet rs e ∨ ((∀ r ∈ rs, r.met) ∧ FirstUnmet qs e) := by
  induction rs with
  | nil => simp [not_firstUnmet_nil]
  | cons r rs ih =>
      rw [List.cons_append, firstUnmet_cons, firstUnmet_cons, ih, List.forall_mem_cons,
        and_or_left, or_assoc, and_assoc]

/-! ## Checks -/

/-- `x` is what a check of some requirements in their order comes to: `a` if
all are met, and else the error of the first that is not. -/
def Decides (rs : List Requirement) (a : α) (x : Except ValidationError α) : Prop :=
  ((∀ r ∈ rs, r.met) ∧ x = .ok a) ∨ ∃ e, FirstUnmet rs e ∧ x = .error e

theorem decides_nil (a : α) : Decides [] a (.ok a) :=
  .inl ⟨nofun, rfl⟩

theorem Decides.cons {p : Prop} {e : ValidationError} {a : α}
    {x : Except ValidationError α} (hunmet : ¬p → x = .error e)
    (hmet : p → Decides rs a x) : Decides (⟨p, e⟩ :: rs) a x := by
  by_cases hp : p
  · rcases hmet hp with ⟨hrs, rfl⟩ | ⟨e', he', rfl⟩
    · exact .inl ⟨List.forall_mem_cons.mpr ⟨hp, hrs⟩, rfl⟩
    · exact .inr ⟨e', firstUnmet_cons.mpr (.inr ⟨hp, he'⟩), rfl⟩
  · exact .inr ⟨e, firstUnmet_cons.mpr (.inl ⟨hp, rfl⟩), hunmet hp⟩

/-- One check and then another, which may rely on what the first one found to
be met. -/
theorem Decides.bind {a : α} {b : β} {x : Except ValidationError α}
    {f : α → Except ValidationError β} (hx : Decides rs a x)
    (hf : (∀ r ∈ rs, r.met) → Decides qs b (f a)) :
    Decides (rs ++ qs) b (x >>= f) := by
  rcases hx with ⟨hrs, rfl⟩ | ⟨e, he, rfl⟩
  · show Decides (rs ++ qs) b (f a)
    rcases hf hrs with ⟨hqs, hfa⟩ | ⟨e, he, hfa⟩
    · exact .inl ⟨fun r hr => (List.mem_append.mp hr).elim (hrs r) (hqs r), hfa⟩
    · exact .inr ⟨e, firstUnmet_append.mpr (.inr ⟨hrs, he⟩), hfa⟩
  · exact .inr ⟨e, firstUnmet_append.mpr (.inl he), rfl⟩

theorem Decides.eq_ok_iff {a b : α} {x : Except ValidationError α}
    (h : Decides rs a x) : x = .ok b ↔ (∀ r ∈ rs, r.met) ∧ b = a := by
  rcases h with ⟨hrs, rfl⟩ | ⟨e, he, rfl⟩
  · constructor
    · intro heq
      exact ⟨hrs, (Except.ok.inj heq).symm⟩
    · rintro ⟨-, rfl⟩
      rfl
  · constructor
    · intro heq
      cases heq
    · rintro ⟨hrs, -⟩
      exact absurd hrs he.not_all_met

theorem Decides.eq_error_iff {a : α} {x : Except ValidationError α}
    {e : ValidationError} (h : Decides rs a x) :
    x = .error e ↔ FirstUnmet rs e := by
  rcases h with ⟨hrs, rfl⟩ | ⟨e', he', rfl⟩
  · constructor
    · intro heq
      cases heq
    · intro he
      exact absurd hrs he.not_all_met
  · constructor
    · intro heq
      obtain rfl := Except.error.inj heq
      exact he'
    · intro he
      rw [he.unique he']

/-- Checks that decide the same requirements with the same value are the same. -/
theorem Decides.unique {a : α} {x y : Except ValidationError α} (hx : Decides rs a x)
    (hy : Decides rs a y) : x = y := by
  rcases hx with ⟨hmet, rfl⟩ | ⟨e, he, rfl⟩
  · exact (hy.eq_ok_iff.mpr ⟨hmet, rfl⟩).symm
  · exact (hy.eq_error_iff.mpr he).symm

end Requirement

end IndexerSettings
