import Mathlib.Algebra.Field.Rat
import Mathlib.Data.List.Basic
import IndexerSettings.Decimal.Layout
import IndexerSettings.Decimal.Reader
import IndexerSettings.Proofs.Decimal.Numeral
import IndexerSettings.Proofs.Text.Trimming

/-!
# Decimals in writing

The texts that write a decimal, apart from what writes and what reads them: digits,
perhaps with a point among them, and perhaps with an exponent behind them
(`WritesScaled`).  The reader takes each such text for its decimal, and every layout
writes one, whose value is that of the decimal laid out.
-/

namespace IndexerSettings.Decimal

/-- The value of a decimal. -/
def Scaled.value (s : Scaled) : ℚ := s.digits * 10 ^ s.exponent

/-- Digits, with a point among them or without one. -/
inductive Mantissa : List Char → Scaled → Prop
  | whole {digits} (h : IsNumeral digits) : Mantissa digits ⟨numeralValue digits, 0⟩
  | pointed {digits part} (h : IsNumeral digits) (h' : IsNumeral part) :
      Mantissa (digits ++ '.' :: part) ⟨numeralValue (digits ++ part), -part.length⟩

/-- A text writes a decimal: digits, and perhaps how far its point has to move. -/
inductive WritesScaled : List Char → Scaled → Prop
  | plain {cs s} (h : Mantissa cs s) : WritesScaled cs s
  | scaled {cs s exponent n} (h : Mantissa cs s) (h' : Writes exponent n) :
      WritesScaled (cs ++ 'e' :: exponent) ⟨s.digits, n + s.exponent⟩

/-! ## Numerals among blanks -/

theorem IsNumeral.isBlank_eq_false {cs : List Char} (h : IsNumeral cs) :
    ∀ c ∈ cs, Text.isBlank c = false :=
  fun c hc => Text.isBlank_of_digit (h.2 c hc)

theorem Writes.isBlank_eq_false {cs : List Char} {n : Int} (h : Writes cs n) :
    ∀ c ∈ cs, Text.isBlank c = false := by
  cases h with
  | plain h => exact h.isBlank_eq_false
  | plus h => exact List.forall_mem_cons.mpr ⟨by decide, h.isBlank_eq_false⟩
  | minus h => exact List.forall_mem_cons.mpr ⟨by decide, h.isBlank_eq_false⟩

/-! ## Reading -/

section Reading

variable {cs digits rest : List Char} {s : Scaled} {negative : Bool}

theorem isDigit_iff {c : Char} : isDigit c = true ↔ '0' ≤ c ∧ c ≤ '9' := by
  rw [isDigit, digit?]
  split <;> simp_all

theorem spanDigits_append (hdigits : ∀ c ∈ digits, '0' ≤ c ∧ c ≤ '9')
    (hrest : ∀ c, rest.head? = some c → isDigit c = false) :
    spanDigits (digits ++ rest) = (digits.map fun c => c.toNat - '0'.toNat, rest) := by
  have hall : ∀ c ∈ digits, isDigit c = true := fun c hc => isDigit_iff.mpr (hdigits c hc)
  have htake : rest.takeWhile isDigit = [] ∧ rest.dropWhile isDigit = rest := by
    cases rest with
    | nil => exact ⟨rfl, rfl⟩
    | cons c rest => simp [hrest c rfl]
  have hvalues : digits.filterMap digit? = digits.map fun c => c.toNat - '0'.toNat := by
    rw [← List.filterMap_eq_map]
    refine List.filterMap_congr fun c hc => ?_
    exact digit?_eq_some_iff.mpr ⟨hdigits c hc, rfl⟩
  rw [spanDigits, List.takeWhile_append_of_pos hall, List.dropWhile_append_of_pos hall, htake.1,
    htake.2, List.append_nil, hvalues]

theorem ofDigits_map (cs : List Char) :
    ofDigits (cs.map fun c => c.toNat - '0'.toNat) = numeralValue cs := by
  rw [ofDigits_eq, numeralValue, List.map_reverse]

/-- What may stand behind the digits: nothing, or an exponent. -/
theorem Mantissa.digits?_append (h : Mantissa cs s) {e : Int}
    (hrest : Binary64.exponent? rest = some e)
    (hhead : ∀ c, rest.head? = some c → c = 'e') :
    Binary64.digits? negative (cs ++ rest)
      = some (Binary64.ofDecimal negative s.digits (e + s.exponent)) := by
  have hhead' : ∀ c, rest.head? = some c → isDigit c = false := by
    intro c hc
    obtain rfl := hhead c hc
    decide
  cases h with
  | whole h =>
      have hsome : (cs.map fun c => c.toNat - '0'.toNat).isEmpty = false := by simpa using h.1
      rw [Binary64.digits?, spanDigits_append h.2 hhead']
      dsimp only
      split
      · cases hhead _ rfl
      · simp only [hrest, hsome, Bool.false_and, Bool.false_eq_true, if_false, Option.map_some,
          List.append_nil, ofDigits_map]
        rfl
  | @pointed digits part h h' =>
      have hsome : (digits.map fun c => c.toNat - '0'.toNat).isEmpty = false := by
        simpa using h.1
      have hpoint : ∀ c, ('.' :: (part ++ rest)).head? = some c → isDigit c = false := by
        rintro c hc
        obtain rfl := Option.some.inj hc
        decide
      rw [Binary64.digits?, List.append_assoc, List.cons_append, spanDigits_append h.2 hpoint]
      simp only [spanDigits_append h'.2 hhead', hrest, hsome, Bool.false_and, Bool.false_eq_true,
        if_false, Option.map_some, ← List.map_append, ofDigits_map, List.length_map]
      rfl

/-- The reader takes a text for the decimal that it writes. -/
theorem WritesScaled.digits?_eq (h : WritesScaled cs s) :
    Binary64.digits? negative cs = some (Binary64.ofDecimal negative s.digits s.exponent) := by
  cases h with
  | plain h =>
      have hread : Binary64.digits? negative (cs ++ [])
          = some (Binary64.ofDecimal negative s.digits (0 + s.exponent)) :=
        h.digits?_append rfl nofun
      rwa [List.append_nil, Int.zero_add] at hread
  | @scaled cs s exponent n h h' =>
      refine h.digits?_append ?_ fun c hc => (Option.some.inj hc).symm
      exact signed?_eq_some_iff.mpr h'

theorem IsNumeral.exists_head? (h : IsNumeral cs) :
    ∃ c, cs.head? = some c ∧ '0' ≤ c ∧ c ≤ '9' := by
  obtain ⟨c, rest, rfl⟩ := List.exists_cons_of_ne_nil h.1
  exact ⟨c, rfl, h.2 c List.mem_cons_self⟩

theorem Mantissa.exists_head? (h : Mantissa cs s) :
    ∃ c, cs.head? = some c ∧ '0' ≤ c ∧ c ≤ '9' := by
  cases h with
  | whole h => exact h.exists_head?
  | pointed h _ =>
      obtain ⟨c, hhead, hc⟩ := h.exists_head?
      exact ⟨c, by rw [List.head?_append, hhead]; rfl, hc⟩

/-- What is written begins with a digit. -/
theorem WritesScaled.exists_head? (h : WritesScaled cs s) :
    ∃ c, cs.head? = some c ∧ '0' ≤ c ∧ c ≤ '9' := by
  cases h with
  | plain h => exact h.exists_head?
  | scaled h _ =>
      obtain ⟨c, hhead, hc⟩ := h.exists_head?
      exact ⟨c, by rw [List.head?_append, hhead]; rfl, hc⟩

/-- No name does. -/
theorem Binary64.named?_eq_none {c : Char} (hc : '0' ≤ c ∧ c ≤ '9') (rest : List Char) :
    Binary64.named? negative (c :: rest) = none := by
  have hlower : c.toLower = c := by
    refine dif_neg fun hupper => ?_
    have hle : c.toNat ≤ 57 := hc.2
    have hge : 65 ≤ c.toNat := hupper.1
    omega
  have hname : ∀ first name,
      String.ofList ((c :: rest).map Char.toLower) = String.ofList (first :: name) →
      c = first := by
    intro first name heq
    have hchars := String.ofList_inj.mp heq
    rw [List.map_cons, hlower] at hchars
    exact (List.cons.inj hchars).1
  unfold named?
  split
  · rename_i heq
    obtain rfl := hname 'i' ['n', 'f'] heq
    exact absurd hc.2 (by decide)
  · rename_i heq
    obtain rfl := hname 'i' "nfinity".toList heq
    exact absurd hc.2 (by decide)
  · rename_i heq
    obtain rfl := hname 'n' ['a', 'n'] heq
    exact absurd hc.2 (by decide)
  · rfl

theorem WritesScaled.ofText?_eq (h : WritesScaled cs s) :
    Binary64.ofText? (if negative then '-' :: cs else cs)
      = some (Binary64.ofDecimal negative s.digits s.exponent) := by
  obtain ⟨c, hhead, hc⟩ := h.exists_head?
  obtain ⟨rest, rfl⟩ := List.head?_eq_some_iff.mp hhead
  have hread : Binary64.magnitude? negative (c :: rest)
      = some (Binary64.ofDecimal negative s.digits s.exponent) := by
    rw [Binary64.magnitude?, Binary64.named?_eq_none hc, ← h.digits?_eq]
    rfl
  cases negative with
  | true => exact hread
  | false =>
      rw [← hread, if_neg Bool.false_ne_true, Binary64.ofText?.eq_def]
      split
      · rename_i heq
        obtain rfl := (List.cons.inj heq).1
        exact absurd hc.1 (by decide)
      · rename_i heq
        obtain rfl := (List.cons.inj heq).1
        exact absurd hc.1 (by decide)
      · rfl

theorem Mantissa.isBlank_eq_false (h : Mantissa cs s) : ∀ c ∈ cs, Text.isBlank c = false := by
  cases h with
  | whole h => exact h.isBlank_eq_false
  | pointed h h' =>
      refine List.forall_mem_append.mpr ⟨h.isBlank_eq_false, ?_⟩
      exact List.forall_mem_cons.mpr ⟨by decide, h'.isBlank_eq_false⟩

theorem WritesScaled.isBlank_eq_false (h : WritesScaled cs s) :
    ∀ c ∈ cs, Text.isBlank c = false := by
  cases h with
  | plain h => exact h.isBlank_eq_false
  | scaled h h' =>
      refine List.forall_mem_append.mpr ⟨h.isBlank_eq_false, ?_⟩
      exact List.forall_mem_cons.mpr ⟨by decide, h'.isBlank_eq_false⟩

end Reading

/-! ## Writing -/

/-- Zeros behind the digits move the point. -/
theorem value_append_zeros (cs : List Char) (k : Nat) (e : Int) :
    Scaled.value ⟨numeralValue (cs ++ List.replicate k '0'), e⟩
      = numeralValue cs * 10 ^ (k + e) := by
  rw [Scaled.value, numeralValue_eq, numeralValue_eq, Nat.ofDigitChars_append,
    Nat.ofDigitChars_replicate_zero, zpow_add₀ (by norm_num), zpow_natCast]
  push_cast
  ring

theorem numeralValue_zeros_append (k : Nat) (cs : List Char) :
    numeralValue (List.replicate k '0' ++ cs) = numeralValue cs := by
  rw [numeralValue_eq, numeralValue_eq, Nat.ofDigitChars_append, Nat.ofDigitChars_replicate_zero,
    Nat.mul_zero]

theorem isNumeral_append_zeros {cs : List Char} (h : IsNumeral cs) (k : Nat) :
    IsNumeral (cs ++ List.replicate k '0') := by
  refine ⟨List.append_ne_nil_of_left_ne_nil h.1 _, List.forall_mem_append.mpr ⟨h.2, ?_⟩⟩
  intro c hc
  rw [List.eq_of_mem_replicate hc]
  decide

theorem isNumeral_zeros_append {cs : List Char} (h : IsNumeral cs) (k : Nat) :
    IsNumeral (List.replicate k '0' ++ cs) := by
  refine ⟨List.append_ne_nil_of_right_ne_nil _ h.1, List.forall_mem_append.mpr ⟨?_, h.2⟩⟩
  intro c hc
  rw [List.eq_of_mem_replicate hc]
  decide

theorem isNumeral_of_sublist {cs cs' : List Char} (h : IsNumeral cs) (hsub : cs'.Sublist cs)
    (hne : cs' ≠ []) : IsNumeral cs' :=
  ⟨hne, fun c hc => h.2 c (hsub.mem hc)⟩

/-- A point among the digits of a numeral. -/
theorem IsNumeral.mantissa_split {digits : List Char} (h : IsNumeral digits) {n : Nat}
    (hpos : 0 < n) (hn : n < digits.length) :
    Mantissa (digits.take n ++ '.' :: digits.drop n)
      ⟨numeralValue digits, -((digits.length - n : Nat) : Int)⟩ := by
  have htake : digits.take n ≠ [] := by
    rw [Ne, List.take_eq_nil_iff, not_or]
    exact ⟨by omega, h.1⟩
  have hdrop : digits.drop n ≠ [] := by
    rw [Ne, List.drop_eq_nil_iff]
    omega
  have hpointed := Mantissa.pointed (isNumeral_of_sublist h (List.take_sublist ..) htake)
    (isNumeral_of_sublist h (List.drop_sublist ..) hdrop)
  rwa [List.take_append_drop, List.length_drop] at hpointed

/-- A point behind the first digit, if there are more of them. -/
theorem IsNumeral.mantissa_head {digits : List Char} (h : IsNumeral digits) :
    Mantissa (digits.take 1 ++ if digits.length ≤ 1 then [] else '.' :: digits.drop 1)
      ⟨numeralValue digits, -((digits.length - 1 : Nat) : Int)⟩ := by
  split
  · rename_i hlength
    rw [List.take_of_length_le hlength, List.append_nil, Nat.sub_eq_zero_of_le hlength]
    exact .whole h
  · exact h.mantissa_split (by decide) (by omega)

namespace Layout

variable (layout : Layout) (s : Scaled)

/-- Without an exponent the zeros up to the point are digits as well. -/
theorem exists_mantissa_placed :
    ∃ t : Scaled, Mantissa (layout.placed s).toList t ∧ t.value = s.value := by
  have hdigits := isNumeral_toDigits s.digits
  have hvalue := numeralValue_toDigits s.digits
  have hzero := isNumeral_toDigits 0
  rw [Scaled.value, ← hvalue]
  simp only [placed]
  generalize Nat.toDigits 10 s.digits = digits at hdigits ⊢
  split
  · rename_i hexponent
    obtain ⟨k, hk⟩ := Int.eq_ofNat_of_zero_le hexponent
    by_cases hpoint : layout.wholePoint = true
    · have hchars : (String.ofList digits ++ zeros s.exponent.toNat
          ++ if layout.wholePoint then ".0" else "").toList
          = digits ++ List.replicate k '0' ++ '.' :: List.replicate 1 '0' := by
        simp [zeros, hk, hpoint]
      rw [hchars]
      refine ⟨_, .pointed (isNumeral_append_zeros hdigits k) hzero, ?_⟩
      rw [List.append_assoc, List.replicate_append_replicate, value_append_zeros, hk]
      congr 2
      simp
    · have hchars : (String.ofList digits ++ zeros s.exponent.toNat
          ++ if layout.wholePoint then ".0" else "").toList
          = digits ++ List.replicate k '0' := by
        simp [zeros, hk, hpoint]
      rw [hchars]
      refine ⟨_, .whole (isNumeral_append_zeros hdigits k), ?_⟩
      rw [value_append_zeros, hk, Int.add_zero]
  · rename_i hexponent
    split
    · rename_i hwhole
      generalize hn : ((digits.length : Int) + s.exponent).toNat = n
      have hchars : (String.ofList (digits.take n) ++ "." ++ String.ofList (digits.drop n)).toList
          = digits.take n ++ '.' :: digits.drop n := by
        simp
      rw [hchars]
      refine ⟨_, hdigits.mantissa_split (by omega) (by omega), ?_⟩
      rw [Scaled.value]
      congr 2
      dsimp only
      omega
    · generalize hn : (-((digits.length : Int) + s.exponent)).toNat = n
      have hchars : ("0." ++ zeros n ++ String.ofList digits).toList
          = ['0'] ++ '.' :: (List.replicate n '0' ++ digits) := by
        simp [zeros]
      rw [hchars]
      refine ⟨_, .pointed hzero (isNumeral_zeros_append hdigits n), ?_⟩
      rw [Scaled.value, ← List.append_assoc, show ['0'] = List.replicate 1 '0' from rfl,
        List.replicate_append_replicate, numeralValue_zeros_append]
      congr 2
      simp
      omega

/-- A whole number with its sign, which may be left out if it is a plus. -/
theorem writes_signed {plus : String} (hplus : plus.toList = [] ∨ plus.toList = ['+'])
    (n : Int) : Writes ((if n < 0 then "-" else plus) ++ digitText n.natAbs).toList n := by
  have hdigits := isNumeral_toDigits n.natAbs
  have hvalue := numeralValue_toDigits n.natAbs
  rw [String.toList_append, digitText, String.toList_ofList]
  split
  · show Writes ('-' :: Nat.toDigits 10 n.natAbs) n
    rw [writes_minus_iff, hvalue]
    exact ⟨hdigits, by omega⟩
  · have hn : (numeralValue (Nat.toDigits 10 n.natAbs) : Int) = n := by omega
    rcases hplus with hplus | hplus <;> rw [hplus]
    · have hwrites := Writes.plain hdigits
      rwa [hn] at hwrites
    · have hwrites := Writes.plus hdigits
      rwa [hn] at hwrites

/-- With an exponent there is one digit before the point. -/
theorem exists_writes_exponential :
    ∃ t : Scaled, WritesScaled (layout.exponential s).toList t ∧ t.value = s.value := by
  have hdigits := isNumeral_toDigits s.digits
  have hvalue := numeralValue_toDigits s.digits
  have hplus : (if layout.plusSign then "+" else "").toList = []
      ∨ (if layout.plusSign then "+" else "").toList = ['+'] := by
    cases layout.plusSign
    · exact .inl rfl
    · exact .inr rfl
  rw [Scaled.value, ← hvalue]
  simp only [exponential]
  generalize Nat.toDigits 10 s.digits = digits at hdigits ⊢
  generalize hn : s.exponent + digits.length - 1 = n
  have hwrites := writes_signed hplus n
  rw [String.append_assoc, String.append_assoc, String.append_assoc]
  generalize (if n < 0 then "-" else if layout.plusSign then "+" else "") ++ digitText n.natAbs
    = exponent at hwrites ⊢
  have hpos : 0 < digits.length := List.length_pos_of_ne_nil hdigits.1
  have hchars : (String.ofList (digits.take 1) ++ ((if digits.length ≤ 1 then "" else
      "." ++ String.ofList (digits.drop 1)) ++ ("e" ++ exponent))).toList
      = (digits.take 1 ++ if digits.length ≤ 1 then [] else '.' :: digits.drop 1)
        ++ 'e' :: exponent.toList := by
    split <;> simp
  rw [hchars]
  refine ⟨_, .scaled hdigits.mantissa_head hwrites, ?_⟩
  rw [Scaled.value]
  congr 2
  dsimp only
  omega

/-- A finite number is written as its shortest decimal, behind its sign. -/
theorem exists_writes_text {x : Binary64} (hfinite : x.isFinite = true) :
    ∃ body t, (layout.text x).toList = (if x.negative then '-' :: body else body)
      ∧ WritesScaled body t ∧ t.value = (shortest layout.tie x).value := by
  obtain ⟨t, ht, hvalue⟩ : ∃ t, WritesScaled
      (if (shortest layout.tie x).digits = 0 || layout.isPositional (shortest layout.tie x) then
        layout.placed (shortest layout.tie x)
      else layout.exponential (shortest layout.tie x)).toList t
      ∧ t.value = (shortest layout.tie x).value := by
    split
    · obtain ⟨t, ht, hvalue⟩ := layout.exists_mantissa_placed (shortest layout.tie x)
      exact ⟨t, .plain ht, hvalue⟩
    · exact layout.exists_writes_exponential (shortest layout.tie x)
  have hsign : ∀ body : String, ((if x.negative then "-" else "") ++ body).toList
      = if x.negative then '-' :: body.toList else body.toList := by
    intro body
    cases x.negative <;> simp
  rw [text, if_neg (by simp [Binary64.isNaN, hfinite])]
  simp only [hfinite, Bool.not_true, Bool.false_eq_true, if_false]
  exact ⟨_, t, hsign _, ht, hvalue⟩

end Layout

end IndexerSettings.Decimal
