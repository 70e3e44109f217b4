/-!
# Outcomes

A value or an error: what it takes for operations on outcomes to give a value or
to fail, what a check of a list comes to, and how a view of the values follows a
sequence of steps.
-/

namespace IndexerSettings.Outcome

variable {ε ε' α β γ : Type} {x : Except ε α}

theorem map_eq_ok_iff {f : α → β} {b : β} :
    x.map f = .ok b ↔ ∃ a, x = .ok a ∧ f a = b := by
  cases x with
  | error e => simp [Except.map]
  | ok a => simp [Except.map]

theorem map_eq_error_iff {f : α → β} {e : ε} : x.map f = .error e ↔ x = .error e := by
  cases x with
  | error e' => simp [Except.map]
  | ok a => simp [Except.map]

theorem mapError_eq_ok_iff {f : ε → ε'} {a : α} : x.mapError f = .ok a ↔ x = .ok a := by
  cases x with
  | error e => exact ⟨nofun, nofun⟩
  | ok a' =>
      constructor
      · intro h
        exact congrArg Except.ok (Except.ok.inj h)
      · intro h
        exact congrArg Except.ok (Except.ok.inj h)

theorem mapError_eq_error_iff {f : ε → ε'} {e' : ε'} :
    x.mapError f = .error e' ↔ ∃ e, x = .error e ∧ f e = e' := by
  cases x with
  | error e =>
      constructor
      · intro h
        exact ⟨e, rfl, Except.error.inj h⟩
      · rintro ⟨_, heq, rfl⟩
        obtain rfl := Except.error.inj heq
        rfl
  | ok a => exact ⟨nofun, nofun⟩

theorem bind_eq_ok_iff {f : α → Except ε β} {b : β} :
    x >>= f = .ok b ↔ ∃ a, x = .ok a ∧ f a = .ok b := by
  cases x with
  | error e => simp [bind, Except.bind]
  | ok a => simp [bind, Except.bind]

/-- A sequence fails in its first half or, that done, in its second. -/
theorem bind_eq_error_iff {f : α → Except ε β} {e : ε} :
    x >>= f = .error e ↔ x = .error e ∨ ∃ a, x = .ok a ∧ f a = .error e := by
  cases x with
  | error e' => simp [bind, Except.bind]
  | ok a => simp [bind, Except.bind]

theorem map_map (f : α → β) (g : β → γ) : (x.map f).map g = x.map fun a => g (f a) := by
  cases x <;> rfl

theorem mapError_mapError {ε'' : Type} (f : ε → ε') (g : ε' → ε'') :
    (x.mapError f).mapError g = x.mapError fun e => g (f e) := by
  cases x <;> rfl

theorem mapError_map (f : α → β) (g : ε → ε') :
    (x.map f).mapError g = (x.mapError g).map f := by
  cases x <;> rfl

theorem mapError_bind (f : α → Except ε β) (g : ε → ε') :
    (x >>= f).mapError g = x.mapError g >>= fun a => (f a).mapError g := by
  cases x <;> rfl

theorem map_bind (f : α → Except ε β) (g : β → γ) :
    (x >>= f).map g = x >>= fun a => (f a).map g := by
  cases x <;> rfl

theorem mapError_foldlM (f : α → β → Except ε α) (g : ε → ε') (l : List β) (a : α) :
    (l.foldlM f a).mapError g = l.foldlM (fun a b => (f a b).mapError g) a := by
  induction l generalizing a with
  | nil => rfl
  | cons b rest ih =>
      rw [List.foldlM_cons, List.foldlM_cons, mapError_bind]
      simp only [ih]

theorem foldlM_congr {f g : α → β → Except ε α} {l : List β}
    (h : ∀ b ∈ l, ∀ a, f a b = g a b) (a : α) : l.foldlM f a = l.foldlM g a := by
  induction l generalizing a with
  | nil => rfl
  | cons b rest ih =>
      obtain ⟨hb, hrest⟩ := List.forall_mem_cons.mp h
      rw [List.foldlM_cons, List.foldlM_cons, hb]
      simp only [ih hrest]

/-- A fold fails at the first element that what was folded before it is not
taken with. -/
theorem foldlM_eq_error_iff {f : α → β → Except ε α} {l : List β} {a : α} {e : ε} :
    l.foldlM f a = .error e ↔
      ∃ before b after mid, l = before ++ b :: after ∧ before.foldlM f a = .ok mid
        ∧ f mid b = .error e := by
  induction l generalizing a with
  | nil => simp [pure, Except.pure]
  | cons b rest ih =>
      rw [List.foldlM_cons, bind_eq_error_iff]
      simp only [ih]
      constructor
      · rintro (hb | ⟨a', hb, before, c, after, mid, rfl, hbefore, hc⟩)
        · exact ⟨[], b, rest, a, rfl, rfl, hb⟩
        · refine ⟨b :: before, c, after, mid, rfl, ?_, hc⟩
          rw [List.foldlM_cons, hb]
          exact hbefore
      · rintro ⟨before, c, after, mid, heq, hbefore, hc⟩
        cases before with
        | nil =>
            obtain ⟨rfl, -⟩ := List.cons.inj heq
            obtain rfl := Except.ok.inj hbefore
            exact .inl hc
        | cons b' before =>
            obtain ⟨rfl, rfl⟩ := List.cons.inj heq
            rw [List.foldlM_cons] at hbefore
            obtain ⟨a', hb, hbefore⟩ := bind_eq_ok_iff.mp hbefore
            exact .inr ⟨a', hb, before, c, after, mid, rfl, hbefore, hc⟩

/-! ## Checks of a list -/

theorem forM_eq_ok_iff {f : α → Except ε Unit} {l : List α} :
    forM l f = .ok () ↔ ∀ a ∈ l, f a = .ok () := by
  induction l with
  | nil => simp [pure, Except.pure]
  | cons a rest ih =>
      rw [List.forM_cons, bind_eq_ok_iff, List.forall_mem_cons, ← ih]
      constructor
      · rintro ⟨⟨⟩, ha, hrest⟩
        exact ⟨ha, hrest⟩
      · rintro ⟨ha, hrest⟩
        exact ⟨(), ha, hrest⟩

/-- The error is that of the first element that has one. -/
theorem forM_eq_error_iff {f : α → Except ε Unit} {l : List α} {e : ε} :
    forM l f = .error e ↔
      ∃ before a after, l = before ++ a :: after ∧ (∀ b ∈ before, f b = .ok ()) ∧ f a = .error e := by
  induction l with
  | nil => simp [pure, Except.pure]
  | cons a rest ih =>
      rw [List.forM_cons]
      cases ha : f a with
      | error e' =>
          constructor
          · intro h
            obtain rfl := Except.error.inj h
            exact ⟨[], a, rest, rfl, nofun, ha⟩
          · rintro ⟨before, b, after, heq, hbefore, hb⟩
            cases before with
            | nil =>
                obtain ⟨rfl, -⟩ := List.cons.inj heq
                exact ha.symm.trans hb
            | cons c before =>
                obtain ⟨rfl, -⟩ := List.cons.inj heq
                cases ha.symm.trans (hbefore a List.mem_cons_self)
      | ok u =>
          refine ih.trans ⟨?_, ?_⟩
          · rintro ⟨before, b, after, rfl, hbefore, hb⟩
            exact ⟨a :: before, b, after, rfl, List.forall_mem_cons.mpr ⟨ha, hbefore⟩, hb⟩
          · rintro ⟨before, b, after, heq, hbefore, hb⟩
            cases before with
            | nil =>
                obtain ⟨rfl, -⟩ := List.cons.inj heq
                cases ha.symm.trans hb
            | cons c before =>
                obtain ⟨rfl, rfl⟩ := List.cons.inj heq
                exact ⟨before, b, after, rfl, (List.forall_mem_cons.mp hbefore).2, hb⟩

theorem forM_flatMap {f : β → Except ε Unit} {g : α → List β} {l : List α} :
    forM (l.flatMap g) f = forM l fun a => forM (g a) f := by
  induction l with
  | nil => rfl
  | cons a rest ih => rw [List.flatMap_cons, List.forM_append, List.forM_cons, ih]

/-- In a list that ascends by its keys, the first element that has an error is
the one with the least key. -/
theorem forM_eq_error_iff_of_ascending {key : α → String} {f : α → Except ε Unit} {l : List α}
    (hl : l.Pairwise fun a b => key a < key b) {e : ε} :
    forM l f = .error e ↔
      ∃ a ∈ l, f a = .error e ∧ ∀ b ∈ l, key b < key a → f b = .ok () := by
  rw [forM_eq_error_iff]
  constructor
  · rintro ⟨before, a, after, rfl, hbefore, ha⟩
    obtain ⟨-, hafter, -⟩ := List.pairwise_append.mp hl
    refine ⟨a, by simp, ha, fun b hb hlt => ?_⟩
    rcases List.mem_append.mp hb with hb | hb
    · exact hbefore b hb
    · rcases List.mem_cons.mp hb with rfl | hb
      · exact absurd hlt (Std.lt_irrefl)
      · exact absurd hlt (String.lt_asymm ((List.pairwise_cons.mp hafter).1 b hb))
  · rintro ⟨a, hmem, ha, hbefore⟩
    obtain ⟨before, after, rfl⟩ := List.append_of_mem hmem
    obtain ⟨-, -, hless⟩ := List.pairwise_append.mp hl
    exact ⟨before, a, after, rfl,
      fun b hb => hbefore b (List.mem_append_left _ hb) (hless b hb a List.mem_cons_self), ha⟩

/-- Checks are the same if they fail in the same way. -/
theorem eq_of_eq_error_iff {x y : Except ε Unit} (h : ∀ e, x = .error e ↔ y = .error e) :
    x = y := by
  cases x with
  | error e => exact ((h e).mp rfl).symm
  | ok u =>
      cases y with
      | error e => exact (h e).mpr rfl
      | ok u' => rfl

/-! ## Views -/

/-- Outcomes that agree in a view that loses nothing agree. -/
theorem mapError_eq_of_map {y : Except ε α} {v : α → β} (hv : ∀ {a b}, v a = v b → a = b)
    {g : ε → ε'} (h : (x.map v).mapError g = (y.map v).mapError g) :
    x.mapError g = y.mapError g := by
  cases x with
  | error e =>
      cases y with
      | error e' => exact congrArg Except.error (Except.error.inj h)
      | ok b => cases h
  | ok a =>
      cases y with
      | error e' => cases h
      | ok b => exact congrArg Except.ok (hv (Except.ok.inj h))

/-- A view that follows both halves of a sequence follows the sequence. -/
theorem map_bind_of_map {v : α → β} {y : Except ε β} {f : α → Except ε α}
    {g : β → Except ε β} (hx : x.map v = y) (hf : ∀ a, (f a).map v = g (v a)) :
    (x >>= f).map v = y >>= g := by
  subst hx
  cases x with
  | error e => rfl
  | ok a => exact hf a

/-- A view that follows every step of a fold follows the fold, over the views
of what is folded. -/
theorem map_foldlM_of_map {δ : Type} {v : α → β} {u : γ → δ} {f : α → γ → Except ε α}
    {g : β → δ → Except ε β} {l : List γ}
    (h : ∀ c ∈ l, ∀ a, (f a c).map v = g (v a) (u c)) (a : α) :
    (l.foldlM f a).map v = (l.map u).foldlM g (v a) := by
  induction l generalizing a with
  | nil => rfl
  | cons c rest ih =>
      obtain ⟨hc, hrest⟩ := List.forall_mem_cons.mp h
      rw [List.map_cons, List.foldlM_cons, List.foldlM_cons]
      exact map_bind_of_map (hc a) (ih hrest)

/-- A fold of which nothing is kept but whether it fails, where the steps do not
depend on what was folded before, is a check of the list. -/
theorem map_foldlM_eq_forM {f : α → γ → Except ε α} {g : γ → Except ε Unit} {l : List γ}
    (h : ∀ c ∈ l, ∀ a, (f a c).map (fun _ => ()) = g c) (a : α) :
    (l.foldlM f a).map (fun _ => ()) = forM l g := by
  induction l generalizing a with
  | nil => rfl
  | cons c rest ih =>
      obtain ⟨hc, hrest⟩ := List.forall_mem_cons.mp h
      rw [List.foldlM_cons, List.forM_cons]
      exact map_bind_of_map (hc a) (ih hrest)

end IndexerSettings.Outcome
