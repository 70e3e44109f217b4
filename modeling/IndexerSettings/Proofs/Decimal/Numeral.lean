import Mathlib.Data.List.Induction
import Mathlib.Data.Nat.Digits.Defs
import IndexerSettings.Decimal.Integer

/-!
# Numerals

The grammar of whole numbers in decimal, apart from the readers of them: one
or more ASCII digits, whose value is the sum of the digits times their powers
of ten.  The readers accept exactly the texts of the grammar and give their
values.
-/

namespace IndexerSettings.Decimal

/-- One or more ASCII digits. -/
def IsNumeral (cs : List Char) : Prop :=
  cs ≠ [] ∧ ∀ c ∈ cs, '0' ≤ c ∧ c ≤ '9'

/-- The sum of the digits, the last one counting once, each other one ten
times what the one behind it counts. -/
def numeralValue (cs : List Char) : Nat :=
  Nat.ofDigits 10 (cs.reverse.map fun c => c.toNat - '0'.toNat)

/-! ## Digits -/

theorem digit?_eq_some_iff {c : Char} {d : Nat} :
    digit? c = some d ↔ ('0' ≤ c ∧ c ≤ '9') ∧ c.toNat - '0'.toNat = d := by
  rw [digit?]
  split
  · rename_i hc
    simp [hc]
  · rename_i hc
    simp [hc]

theorem ofDigits_eq (ds : List Nat) : ofDigits ds = Nat.ofDigits 10 ds.reverse := by
  induction ds using List.reverseRecOn with
  | nil => rfl
  | append_singleton ds d ih =>
      rw [ofDigits] at ih
      rw [ofDigits, List.foldl_append, List.reverse_append]
      simp only [List.foldl_cons, List.foldl_nil, List.reverse_singleton,
        List.singleton_append, Nat.ofDigits_cons]
      omega

theorem mapM_digit?_eq_some_iff {cs : List Char} {ds : List Nat} :
    cs.mapM digit? = some ds ↔
      (∀ c ∈ cs, '0' ≤ c ∧ c ≤ '9') ∧ cs.map (fun c => c.toNat - '0'.toNat) = ds := by
  induction cs generalizing ds with
  | nil => simp
  | cons c rest ih =>
      simp only [List.mapM_cons, Option.bind_eq_bind, Option.bind_eq_some_iff,
        digit?_eq_some_iff, ih, Option.pure_def, Option.some.injEq]
      constructor
      · rintro ⟨d, ⟨hc, rfl⟩, ds, ⟨hrest, rfl⟩, rfl⟩
        exact ⟨List.forall_mem_cons.mpr ⟨hc, hrest⟩, rfl⟩
      · rintro ⟨hall, rfl⟩
        obtain ⟨hc, hrest⟩ := List.forall_mem_cons.mp hall
        exact ⟨_, ⟨hc, rfl⟩, _, ⟨hrest, rfl⟩, rfl⟩

/-! ## Numbers as numerals -/

theorem numeralValue_eq (cs : List Char) : numeralValue cs = Nat.ofDigitChars 10 cs 0 := by
  rw [numeralValue, List.map_reverse, ← ofDigits_eq, ofDigits, List.foldl_map]
  rfl

theorem isNumeral_toDigits (n : Nat) : IsNumeral (Nat.toDigits 10 n) := by
  refine ⟨Nat.toDigits_ne_nil, fun c hc => ?_⟩
  have hdigit : c.isDigit = true := Nat.isDigit_of_mem_toDigits (by omega) (by omega) hc
  rw [Char.isDigit, Bool.and_eq_true, decide_eq_true_eq, decide_eq_true_eq] at hdigit
  exact hdigit

theorem numeralValue_toDigits (n : Nat) : numeralValue (Nat.toDigits 10 n) = n := by
  rw [numeralValue_eq, Nat.ofDigitChars_ten_toDigits]

/-! ## Readers -/

theorem natural?_eq_some_iff {cs : List Char} {n : Nat} :
    natural? cs = some n ↔ IsNumeral cs ∧ numeralValue cs = n := by
  rw [natural?, IsNumeral, numeralValue]
  cases cs with
  | nil => simp
  | cons c rest =>
      rw [if_neg (by simp), Option.map_eq_some_iff]
      simp only [mapM_digit?_eq_some_iff]
      constructor
      · rintro ⟨ds, ⟨hall, rfl⟩, rfl⟩
        exact ⟨⟨List.cons_ne_nil _ _, hall⟩, by rw [ofDigits_eq, List.map_reverse]⟩
      · rintro ⟨⟨-, hall⟩, rfl⟩
        exact ⟨_, ⟨hall, rfl⟩, by rw [ofDigits_eq, List.map_reverse]⟩

/-- A number without a minus sign is a numeral, after at most one `+`. -/
theorem unsigned?_eq_some_iff {cs : List Char} {n : Nat} :
    unsigned? cs = some n ↔
      ∃ digits, (cs = digits ∨ cs = '+' :: digits) ∧ IsNumeral digits
        ∧ numeralValue digits = n := by
  rw [unsigned?.eq_def]
  split
  · rename_i rest
    rw [natural?_eq_some_iff]
    constructor
    · rintro ⟨hnum, hval⟩
      exact ⟨rest, .inr rfl, hnum, hval⟩
    · rintro ⟨digits, rfl | heq, hnum, hval⟩
      · exact absurd (hnum.2 '+' List.mem_cons_self).1 (by decide)
      · obtain rfl := (List.cons.inj heq).2
        exact ⟨hnum, hval⟩
  · rename_i hplus
    rw [natural?_eq_some_iff]
    constructor
    · rintro ⟨hnum, hval⟩
      exact ⟨cs, .inl rfl, hnum, hval⟩
    · rintro ⟨digits, rfl | heq, hnum, hval⟩
      · exact ⟨hnum, hval⟩
      · exact absurd heq (hplus digits)

/-- A text writes a whole number: a numeral, after at most one sign. -/
inductive Writes : List Char → Int → Prop
  | plain {digits} (h : IsNumeral digits) : Writes digits (numeralValue digits)
  | plus {digits} (h : IsNumeral digits) : Writes ('+' :: digits) (numeralValue digits)
  | minus {digits} (h : IsNumeral digits) : Writes ('-' :: digits) (-numeralValue digits)

theorem writes_minus_iff {digits : List Char} {n : Int} :
    Writes ('-' :: digits) n ↔ IsNumeral digits ∧ -(numeralValue digits : Int) = n := by
  constructor
  · intro h
    generalize hcs : '-' :: digits = cs at h
    cases h with
    | plain hnum =>
        exact absurd (hnum.2 '-' (hcs ▸ List.mem_cons_self)).1 (by decide)
    | plus => exact absurd (List.cons.inj hcs).1 (by decide)
    | minus hnum =>
        obtain rfl := (List.cons.inj hcs).2
        exact ⟨hnum, rfl⟩
  · rintro ⟨hnum, rfl⟩
    exact .minus hnum

theorem writes_iff_of_head? {cs : List Char} (hhead : cs.head? ≠ some '-') {n : Int} :
    Writes cs n ↔ ∃ m : Nat, unsigned? cs = some m ∧ (m : Int) = n := by
  simp only [unsigned?_eq_some_iff]
  constructor
  · intro h
    cases h with
    | plain hnum => exact ⟨_, ⟨cs, .inl rfl, hnum, rfl⟩, rfl⟩
    | plus hnum => exact ⟨_, ⟨_, .inr rfl, hnum, rfl⟩, rfl⟩
    | minus => exact absurd rfl hhead
  · rintro ⟨_, ⟨digits, rfl | rfl, hnum, rfl⟩, rfl⟩
    · exact .plain hnum
    · exact .plus hnum

theorem signed?_eq_some_iff {cs : List Char} {n : Int} : signed? cs = some n ↔ Writes cs n := by
  rw [signed?.eq_def]
  split
  · rename_i digits
    rw [writes_minus_iff]
    cases hdigits : natural? digits with
    | none =>
        refine iff_of_false nofun fun h => ?_
        cases hdigits.symm.trans (natural?_eq_some_iff.mpr ⟨h.1, rfl⟩)
    | some m =>
        obtain ⟨hnum, rfl⟩ := natural?_eq_some_iff.mp hdigits
        exact Option.some_inj.trans (and_iff_right hnum).symm
  · rename_i hminus
    have hhead : cs.head? ≠ some '-' := by
      intro hhead
      obtain ⟨rest, rfl⟩ := List.head?_eq_some_iff.mp hhead
      exact hminus rest rfl
    rw [writes_iff_of_head? hhead]
    cases unsigned? cs <;> simp

end IndexerSettings.Decimal
