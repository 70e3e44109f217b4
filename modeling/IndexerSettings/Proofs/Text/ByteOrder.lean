import Mathlib.Tactic.SplitIfs

/-!
# Texts in the order of their bytes

Texts are compared character by character, by code points.  Their bytes in UTF-8
are in the same order (`bytes_lt_iff`): of two characters the smaller one has the
smaller bytes, and neither encoding is the beginning of the other.
-/

namespace IndexerSettings.Text

/-- The bytes of a text in UTF-8. -/
def bytes (s : String) : List UInt8 := s.toUTF8.data.toList

theorem bytes_eq (s : String) : bytes s = s.toList.flatMap String.utf8EncodeChar := by
  have hencoded : s.toUTF8 = s.toList.utf8Encode := by
    rw [String.utf8Encode_toList, String.toUTF8_eq_toByteArray]
  rw [bytes, hencoded, List.utf8Encode, List.data_toByteArray]

/-- The first bytes that differ decide. -/
theorem ofNat_cons_lt {m n : Nat} {xs ys : List UInt8} (hle : m ≤ n) (hn : n < 256)
    (h : m = n → xs < ys) : UInt8.ofNat m :: xs < UInt8.ofNat n :: ys := by
  rw [List.cons_lt_cons_iff, UInt8.lt_iff_toNat_lt, UInt8.toNat_ofNat', UInt8.toNat_ofNat']
  rcases Nat.lt_or_eq_of_le hle with hlt | rfl
  · left
    omega
  · exact .inr ⟨rfl, h rfl⟩

/-- The first byte of a character tells how many it has, and larger characters have
no fewer.  Where there are as many, the bytes are the digits to the base 64. -/
theorem encode_append_lt {c d : Char} (h : c < d) (xs ys : List UInt8) :
    String.utf8EncodeChar c ++ xs < String.utf8EncodeChar d ++ ys := by
  have hlt : c.val.toNat < d.val.toNat := UInt32.lt_iff_toNat_lt.mp (Char.lt_def.mp h)
  have hbound : d.val.toNat < 0x110000 := by
    rcases d.valid with hd | ⟨-, hd⟩ <;> omega
  rw [String.utf8EncodeChar.eq_1, String.utf8EncodeChar.eq_1]
  split_ifs <;>
    (repeat' refine ofNat_cons_lt (by omega) (by omega) fun _ => ?_) <;> omega

theorem encode_lt {cs ds : List Char} (h : cs < ds) :
    cs.flatMap String.utf8EncodeChar < ds.flatMap String.utf8EncodeChar := by
  induction h with
  | nil =>
      rename_i d ds
      obtain ⟨b, bs, hbytes⟩ := List.exists_cons_of_ne_nil (String.utf8EncodeChar_ne_nil (c := d))
      rw [List.flatMap_cons, hbytes]
      exact List.nil_lt_cons ..
  | rel hlt =>
      rw [List.flatMap_cons, List.flatMap_cons]
      exact encode_append_lt hlt _ _
  | cons _ ih =>
      rw [List.flatMap_cons, List.flatMap_cons]
      exact List.append_left_lt ih

/-- Texts are in the order of their bytes. -/
theorem bytes_lt_iff {s t : String} : bytes s < bytes t ↔ s < t := by
  have hbytes : ∀ {s t : String}, s < t → bytes s < bytes t := by
    intro s t h
    rw [bytes_eq, bytes_eq]
    exact encode_lt (String.lt_iff.mp h)
  refine ⟨fun h => ?_, hbytes⟩
  rcases Std.lt_trichotomy s t with hlt | rfl | hgt
  · exact hlt
  · exact absurd h (List.lt_irrefl _)
  · exact absurd h (List.lt_asymm (hbytes hgt))

end IndexerSettings.Text
