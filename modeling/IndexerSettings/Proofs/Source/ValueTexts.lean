import IndexerSettings.Proofs.Decimal.Numeral
import IndexerSettings.Proofs.Settings.Printing
import IndexerSettings.Proofs.Text.Trimming
import IndexerSettings.Source.Override

/-!
# The texts of values

Which texts an override can give to a field of some kind, and what the field then
is.  A text is taken without the blanks around it, unless it is a string; a whole
number may have a sign and leading zeros, and has to be within the range of its kind
(`FieldKind.coerce?_exact`).  What is written into the document is read again as the
value that the text stands for, so nothing is lost between the two.
-/

namespace IndexerSettings

open Decimal
open Json (boolText)
open Outcome (map_eq_ok_iff)
open Text (trimChars)

namespace Json

/-- A scalar is a whole number. -/
def Scalar.IsInteger (value : Scalar) (n : Int) : Prop := ∃ h, value = .number (.integer n h)

theorem Scalar.isInteger_ofInt64 (m : Int64) : (ofInt64 m).IsInteger m.toInt := ⟨_, rfl⟩

theorem Scalar.isInteger_ofUInt64 (m : UInt64) : (ofUInt64 m).IsInteger m.toNat := ⟨_, rfl⟩

theorem Scalar.IsInteger.unique {value : Scalar} {m n : Int} (hm : value.IsInteger m)
    (hn : value.IsInteger n) : m = n := by
  obtain ⟨_, rfl⟩ := hm
  obtain ⟨_, heq⟩ := hn
  exact (Number.integer.inj (Scalar.number.inj heq))

theorem Number.ofInt?_toInt (m : Int64) : Number.ofInt? m.toInt = some (.ofInt64 m) :=
  dif_pos _

theorem Number.ofInt?_toNat (m : UInt64) : Number.ofInt? m.toNat = some (.ofUInt64 m) :=
  dif_pos _

/-! What a scalar is written for is what it is read as. -/

theorem read_toJson_of_injective {α : Type} {reader : Json → Except Mismatch α} {k : FieldKind}
    {wrap : α → FieldValue} (hwrap : Function.Injective wrap)
    (hreader : ∀ j, k.read j = (reader j).map wrap) {a : α} (hkind : (wrap a).kind = k)
    (hwritable : (wrap a).IsWritable) : reader (wrap a).toJson = .ok a := by
  have hwritten := FieldValue.read_toJson hwritable
  rw [hkind, hreader] at hwritten
  obtain ⟨b, hb, heq⟩ := map_eq_ok_iff.mp hwritten
  exact hwrap heq ▸ hb

theorem readInt64_ofInt64 (m : Int64) : (scalar (.ofInt64 m)).readInt64 = .ok m :=
  read_toJson_of_injective (fun _ _ => FieldValue.int.inj) FieldKind.read_int rfl trivial

theorem readUInt64_ofUInt64 (m : UInt64) : (scalar (.ofUInt64 m)).readUInt64 = .ok m :=
  read_toJson_of_injective (fun _ _ => FieldValue.uint.inj) FieldKind.read_uint rfl trivial

end Json

namespace FieldKind

variable {raw : String} {value : Json.Scalar}

/-! ## Each kind -/

theorem coerce?_bool_iff :
    bool.coerce? raw = some value ↔
      ∃ b, trimChars raw.toList = (boolText b).toList ∧ value = .bool b := by
  have htexts : "false".toList ≠ "true".toList := by decide
  simp only [coerce?]
  split
  · rename_i htrue
    rw [htrue]
    constructor
    · intro h
      exact ⟨true, rfl, (Option.some.inj h).symm⟩
    · rintro ⟨b, hb, rfl⟩
      cases b with
      | true => rfl
      | false => exact absurd hb.symm htexts
  · rename_i hnottrue
    split
    · rename_i hfalse
      rw [hfalse]
      constructor
      · intro h
        exact ⟨false, rfl, (Option.some.inj h).symm⟩
      · rintro ⟨b, hb, rfl⟩
        cases b with
        | true => exact absurd hb htexts
        | false => rfl
    · rename_i hnotfalse
      refine iff_of_false nofun ?_
      rintro ⟨b, hb, -⟩
      cases b with
      | true => exact hnottrue hb
      | false => exact hnotfalse hb

theorem coerce?_int_iff :
    int.coerce? raw = some value ↔
      ∃ m : Int64, Writes (trimChars raw.toList) m.toInt ∧ value = .ofInt64 m := by
  simp only [coerce?, Option.bind_eq_some_iff, Option.filter_eq_some_iff, Option.map_eq_some_iff,
    signed?_eq_some_iff, Bool.and_eq_true, decide_eq_true_eq]
  constructor
  · rintro ⟨n, ⟨hwrites, hge, hle⟩, number, hnumber, rfl⟩
    obtain ⟨m, rfl⟩ : ∃ m : Int64, m.toInt = n :=
      ⟨_, Int64.toInt_ofInt_of_le (by omega) (by omega)⟩
    rw [Json.Number.ofInt?_toInt] at hnumber
    exact ⟨_, hwrites, congrArg Json.Scalar.number (Option.some.inj hnumber).symm⟩
  · rintro ⟨m, hwrites, rfl⟩
    have hlt := m.toInt_lt
    exact ⟨m.toInt, ⟨hwrites, m.le_toInt, by omega⟩, _, Json.Number.ofInt?_toInt m, rfl⟩

theorem coerce?_uint_iff :
    uint.coerce? raw = some value ↔
      ∃ m : UInt64, unsigned? (trimChars raw.toList) = some m.toNat ∧ value = .ofUInt64 m := by
  simp only [coerce?, Option.bind_eq_some_iff, Option.map_eq_some_iff]
  constructor
  · rintro ⟨n, hwrites, number, hnumber, rfl⟩
    have hle : (n : Int) ≤ 0xffffffffffffffff := by
      unfold Json.Number.ofInt? at hnumber
      split at hnumber
      · rename_i hn
        exact hn.2
      · cases hnumber
    obtain ⟨m, rfl⟩ : ∃ m : UInt64, m.toNat = n :=
      ⟨_, UInt64.toNat_ofNat_of_lt' (by rw [UInt64.size]; omega)⟩
    rw [Json.Number.ofInt?_toNat] at hnumber
    exact ⟨_, hwrites, congrArg Json.Scalar.number (Option.some.inj hnumber).symm⟩
  · rintro ⟨m, hwrites, rfl⟩
    exact ⟨m.toNat, hwrites, _, Json.Number.ofInt?_toNat m, rfl⟩

theorem coerce?_float_iff :
    float.coerce? raw = some value ↔
      ∃ x h, Binary64.ofText? (trimChars raw.toList) = some x ∧ value = .number (.real x h) := by
  simp only [coerce?, Option.bind_eq_some_iff, Option.map_eq_some_iff]
  refine exists_congr fun x => ?_
  constructor
  · rintro ⟨hx, number, hnumber, rfl⟩
    unfold Json.Number.ofBinary64? at hnumber
    split at hnumber
    · rename_i hfinite
      exact ⟨hfinite, hx, congrArg Json.Scalar.number (Option.some.inj hnumber).symm⟩
    · cases hnumber
  · rintro ⟨hfinite, hx, rfl⟩
    exact ⟨hx, _, dif_pos hfinite, rfl⟩

/-! ## All kinds -/

/-- A text `t`, without the blanks around it, is taken as a whole number if it is
one with at most one sign, or one without a minus sign where no sign is kept, and
within the range of the kind; as a truth value if it is its name; and as a
floating-point number if it reads as one that is finite.  A string is the text with
its blanks.  What is made of the text is a value that the reader of the kind accepts,
and reads as the one that the text stands for. -/
theorem coerce?_exact (raw : String) :
    ∃ t, (∀ u, Text.Surrounds raw.toList u ↔ u = t)
    ∧ (∀ n : Int, (∃ value, int.coerce? raw = some value ∧ value.IsInteger n) ↔
      Writes t n ∧ -0x8000000000000000 ≤ n ∧ n ≤ 0x7fffffffffffffff)
    ∧ (∀ n : Nat, (∃ value, uint.coerce? raw = some value ∧ value.IsInteger n) ↔
      (∃ digits, (t = digits ∨ t = '+' :: digits) ∧ IsNumeral digits ∧ numeralValue digits = n)
        ∧ n ≤ 0xffffffffffffffff)
    ∧ (∀ b, bool.coerce? raw = some (.bool b) ↔ t = (boolText b).toList)
    ∧ (∀ x, (∃ h, float.coerce? raw = some (.number (.real x h))) ↔
      Binary64.ofText? t = some x ∧ x.isFinite = true)
    ∧ string.coerce? raw = some (.string raw)
    ∧ (∀ value, int.coerce? raw = some value →
      ∃ m : Int64, value.IsInteger m.toInt ∧ (Json.scalar value).readInt64 = .ok m)
    ∧ (∀ value, uint.coerce? raw = some value →
      ∃ m : UInt64, value.IsInteger m.toNat ∧ (Json.scalar value).readUInt64 = .ok m)
    ∧ (∀ value, bool.coerce? raw = some value →
      ∃ b, value = .bool b ∧ (Json.scalar value).readBool = .ok b)
    ∧ (∀ value, float.coerce? raw = some value →
      ∃ x h, value = .number (.real x h) ∧ (Json.scalar value).readBinary64 = .ok x)
    ∧ (Json.scalar (.string raw)).readText = .ok raw := by
  refine ⟨trimChars raw.toList, fun u => Text.trimChars_eq_iff.symm.trans eq_comm, fun n => ?_,
    fun n => ?_, fun b => ?_, fun x => ?_, rfl, fun value h => ?_, fun value h => ?_,
    fun value h => ?_, fun value h => ?_, rfl⟩
  · constructor
    · rintro ⟨value, hvalue, hn⟩
      obtain ⟨m, hwrites, rfl⟩ := coerce?_int_iff.mp hvalue
      obtain rfl := (Json.Scalar.isInteger_ofInt64 m).unique hn
      have hlt := m.toInt_lt
      exact ⟨hwrites, m.le_toInt, by omega⟩
    · rintro ⟨hwrites, hge, hle⟩
      obtain ⟨m, rfl⟩ : ∃ m : Int64, m.toInt = n :=
        ⟨_, Int64.toInt_ofInt_of_le (by omega) (by omega)⟩
      exact ⟨_, coerce?_int_iff.mpr ⟨m, hwrites, rfl⟩, Json.Scalar.isInteger_ofInt64 m⟩
  · rw [← unsigned?_eq_some_iff]
    constructor
    · rintro ⟨value, hvalue, hn⟩
      obtain ⟨m, hwrites, rfl⟩ := coerce?_uint_iff.mp hvalue
      have hm := (Json.Scalar.isInteger_ofUInt64 m).unique hn
      obtain rfl : m.toNat = n := by omega
      have hlt := m.toNat_lt
      exact ⟨hwrites, by omega⟩
    · rintro ⟨hwrites, hle⟩
      obtain ⟨m, rfl⟩ : ∃ m : UInt64, m.toNat = n :=
        ⟨_, UInt64.toNat_ofNat_of_lt' (Nat.lt_succ_of_le hle)⟩
      exact ⟨_, coerce?_uint_iff.mpr ⟨m, hwrites, rfl⟩, Json.Scalar.isInteger_ofUInt64 m⟩
  · rw [coerce?_bool_iff]
    constructor
    · rintro ⟨c, hc, heq⟩
      obtain rfl := Json.Scalar.bool.inj heq
      exact hc
    · intro hb
      exact ⟨b, hb, rfl⟩
  · simp only [coerce?_float_iff]
    constructor
    · rintro ⟨hfinite, y, hy, hread, heq⟩
      obtain rfl := Json.Number.real.inj (Json.Scalar.number.inj heq)
      exact ⟨hread, hfinite⟩
    · rintro ⟨hx, hfinite⟩
      exact ⟨hfinite, x, hfinite, hx, rfl⟩
  · obtain ⟨m, -, rfl⟩ := coerce?_int_iff.mp h
    exact ⟨m, Json.Scalar.isInteger_ofInt64 m, Json.readInt64_ofInt64 m⟩
  · obtain ⟨m, -, rfl⟩ := coerce?_uint_iff.mp h
    exact ⟨m, Json.Scalar.isInteger_ofUInt64 m, Json.readUInt64_ofUInt64 m⟩
  · obtain ⟨b, -, rfl⟩ := coerce?_bool_iff.mp h
    exact ⟨b, rfl, rfl⟩
  · obtain ⟨x, hfinite, -, rfl⟩ := coerce?_float_iff.mp h
    exact ⟨x, hfinite, rfl, rfl⟩

/-- The least number there is, between a blank that is not ASCII and a line break. -/
theorem coerce?_exact_least :
    let raw := "\u00a0-9223372036854775808\n"
    let least : Json.Scalar := .ofInt64 (-9223372036854775808)
    ∃ t, Text.Surrounds raw.toList t ∧ Writes t (-9223372036854775808)
      ∧ int.coerce? raw = some least
      ∧ ∃ m : Int64, least.IsInteger m.toInt ∧ (Json.scalar least).readInt64 = .ok m := by
  intro raw least
  have hvalue : int.coerce? raw = some least := by decide +kernel
  obtain ⟨t, ht, hint, -, -, -, -, hread, -⟩ := coerce?_exact raw
  exact ⟨t, (ht t).mpr rfl, ((hint _).mp ⟨_, hvalue, ⟨_, rfl⟩⟩).1, hvalue, hread _ hvalue⟩

end FieldKind

end IndexerSettings
