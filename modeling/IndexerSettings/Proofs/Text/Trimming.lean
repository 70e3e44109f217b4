import Mathlib.Data.List.TakeWhile
import IndexerSettings.Text.Basic

/-!
# Texts trimmed and split

Trimming takes a text for what is left of it when the blanks at both ends are
gone, and splitting it at a character for what stands before the first such
character and what stands behind it.
-/

namespace IndexerSettings.Text

/-! ## Trimming -/

/-- A text with blanks around another one, which neither begins nor ends with
one. -/
def Surrounds (cs inner : List Char) : Prop :=
  ∃ front back, cs = front ++ inner ++ back
    ∧ (∀ c ∈ front, isBlank c = true) ∧ (∀ c ∈ back, isBlank c = true)
    ∧ (∀ c, inner.head? = some c → isBlank c = false)
    ∧ ∀ c, inner.getLast? = some c → isBlank c = false

theorem trimChars_eq_nil_iff {cs : List Char} :
    trimChars cs = [] ↔ ∀ c ∈ cs, isBlank c = true := by
  rw [trimChars, List.reverse_eq_nil_iff, List.dropWhile_eq_nil_iff]
  constructor
  · intro h c hc
    rw [← List.takeWhile_append_dropWhile (p := isBlank) (l := cs)] at hc
    rcases List.mem_append.mp hc with hc | hc
    · exact List.mem_takeWhile_imp hc
    · exact h c (List.mem_reverse.mpr hc)
  · intro h c hc
    exact h c ((List.dropWhile_sublist _).mem (List.mem_reverse.mp hc))

theorem isBlankText_iff {s : String} :
    isBlankText s = true ↔ trimChars s.toList = [] := by
  rw [isBlankText, List.all_eq_true, trimChars_eq_nil_iff]

theorem isBlank_head?_dropWhile {cs : List Char} {c : Char}
    (h : (cs.dropWhile isBlank).head? = some c) : isBlank c = false := by
  have hnot := List.head?_dropWhile_not isBlank cs
  rw [h] at hnot
  simpa using hnot

/-- Blanks are dropped up to a text that begins with none. -/
theorem dropWhile_append_of_head? {front rest : List Char}
    (hfront : ∀ c ∈ front, isBlank c = true)
    (hrest : ∀ c, rest.head? = some c → isBlank c = false) :
    (front ++ rest).dropWhile isBlank = rest := by
  rw [List.dropWhile_append_of_pos hfront]
  cases rest with
  | nil => rfl
  | cons c rest => rw [List.dropWhile_cons_of_neg (by simp [hrest c rfl])]

theorem surrounds_trimChars (cs : List Char) : Surrounds cs (trimChars cs) := by
  have hcs := List.takeWhile_append_dropWhile (p := isBlank) (l := cs)
  generalize hrest : cs.dropWhile isBlank = rest at hcs
  have hrev := List.takeWhile_append_dropWhile (p := isBlank) (l := rest.reverse)
  have htrim : trimChars cs = (rest.reverse.dropWhile isBlank).reverse := by
    rw [trimChars, hrest]
  have hsplit : trimChars cs ++ (rest.reverse.takeWhile isBlank).reverse = rest := by
    rw [htrim, ← List.reverse_append, hrev, List.reverse_reverse]
  refine ⟨cs.takeWhile isBlank, (rest.reverse.takeWhile isBlank).reverse, ?_,
    fun c hc => List.mem_takeWhile_imp hc, ?_, ?_, ?_⟩
  · rw [List.append_assoc, hsplit, hcs]
  · intro c hc
    exact List.mem_takeWhile_imp (List.mem_reverse.mp hc)
  · intro c hc
    have hhead : (cs.dropWhile isBlank).head? = some c := by
      rw [hrest, ← hsplit, List.head?_append, hc]
      rfl
    exact isBlank_head?_dropWhile hhead
  · intro c hc
    rw [htrim, List.getLast?_reverse] at hc
    exact isBlank_head?_dropWhile hc

/-- Trimming finds the text that has the blanks around it. -/
theorem trimChars_eq_iff {cs inner : List Char} : trimChars cs = inner ↔ Surrounds cs inner := by
  constructor
  · rintro rfl
    exact surrounds_trimChars cs
  · rintro ⟨front, back, rfl, hfront, hback, hhead, hlast⟩
    by_cases hnil : inner = []
    · subst hnil
      rw [trimChars_eq_nil_iff, List.append_nil]
      exact fun c hc => (List.mem_append.mp hc).elim (hfront c) (hback c)
    · have hhead' : ∀ c, (inner ++ back).head? = some c → isBlank c = false := by
        intro c hc
        obtain ⟨d, inner, rfl⟩ := List.exists_cons_of_ne_nil hnil
        exact hhead c hc
      have hback' : ∀ c ∈ back.reverse, isBlank c = true :=
        fun c hc => hback c (List.mem_reverse.mp hc)
      have hlast' : ∀ c, inner.reverse.head? = some c → isBlank c = false := by
        intro c hc
        rw [List.head?_reverse] at hc
        exact hlast c hc
      rw [trimChars, List.append_assoc, dropWhile_append_of_head? hfront hhead',
        List.reverse_append, dropWhile_append_of_head? hback' hlast', List.reverse_reverse]

/-- A text without blanks has none around it. -/
theorem trimChars_of_forall {cs : List Char} (h : ∀ c ∈ cs, isBlank c = false) :
    trimChars cs = cs :=
  trimChars_eq_iff.mpr ⟨[], [], by simp, nofun, nofun,
    fun c hc => h c (List.mem_of_mem_head? hc), fun c hc => h c (List.mem_of_mem_getLast? hc)⟩

theorem isBlank_of_digit {c : Char} (h : '0' ≤ c ∧ c ≤ '9') : isBlank c = false := by
  have hge : 48 ≤ c.toNat := h.1
  have hle : c.toNat ≤ 57 := h.2
  simp [isBlank]
  omega

/-! ## Splitting -/

/-- What stands before the first of some character and what stands behind it. -/
theorem split_iff {c : Char} {cs before after : List Char} :
    cs.takeWhile (· != c) = before ∧ cs.dropWhile (· != c) = c :: after ↔
      cs = before ++ c :: after ∧ c ∉ before := by
  constructor
  · rintro ⟨rfl, hafter⟩
    have hsplit := List.takeWhile_append_dropWhile (p := (· != c)) (l := cs)
    rw [hafter] at hsplit
    refine ⟨hsplit.symm, fun hmem => ?_⟩
    have hne := List.mem_takeWhile_imp hmem
    simp at hne
  · rintro ⟨rfl, hnot⟩
    have hbefore : ∀ b ∈ before, (b != c) = true := by
      intro b hb
      rw [bne_iff_ne]
      rintro rfl
      exact hnot hb
    rw [List.takeWhile_append_of_pos hbefore, List.dropWhile_append_of_pos hbefore]
    simp

/-- Without the character there is nothing behind it. -/
theorem dropWhile_eq_nil_iff {c : Char} {cs : List Char} :
    cs.dropWhile (· != c) = [] ↔ c ∉ cs := by
  rw [List.dropWhile_eq_nil_iff]
  simp only [bne_iff_ne, ne_eq]
  exact ⟨fun h hmem => h _ hmem rfl, fun h b hb heq => h (heq ▸ hb)⟩

/-- What is not taken begins with the character. -/
theorem eq_of_dropWhile_eq_cons {c d : Char} {cs after : List Char}
    (h : cs.dropWhile (· != c) = d :: after) : d = c := by
  have hnot := List.head?_dropWhile_not (· != c) cs
  rw [h] at hnot
  simpa using hnot

end IndexerSettings.Text
