import Mathlib.Data.List.Basic

/-! The order of texts. They are compared by code points, which comes to the same as comparing the
bytes of their UTF-8 encodings. -/

namespace ClientGen.Text

def bytes (s : String) : List UInt8 := s.toUTF8.data.toList

theorem bytes_eq (s : String) : bytes s = s.toList.flatMap String.utf8EncodeChar := by
  rw [bytes, String.toUTF8_eq_toByteArray, ← String.utf8Encode_toList, List.utf8Encode,
    List.data_toByteArray]

theorem toNat_lt_unicode (c : Char) : c.val.toNat < 0x110000 := by
  rcases c.valid with h | h
  · exact Nat.lt_trans h (by decide)
  · exact h.2

theorem lt_digits {m n : Nat} (h : m < n) :
    m / 0x40000 < n / 0x40000 ∨ m / 0x40000 = n / 0x40000 ∧
      (m / 0x1000 < n / 0x1000 ∨ m / 0x1000 = n / 0x1000 ∧
        (m / 0x40 < n / 0x40 ∨ m / 0x40 = n / 0x40 ∧ m % 0x40 < n % 0x40)) := by
  have high := Nat.div_le_div_right (c := 0x40000) (Nat.le_of_lt h)
  have middle := Nat.div_le_div_right (c := 0x1000) (Nat.le_of_lt h)
  have low := Nat.div_le_div_right (c := 0x40) (Nat.le_of_lt h)
  omega

theorem utf8EncodeChar_append_lt {c d : Char} (h : c < d) (x y : List UInt8) :
    String.utf8EncodeChar c ++ x < String.utf8EncodeChar d ++ y := by
  have hlt : c.val.toNat < d.val.toNat := h
  have hunicode := toNat_lt_unicode d
  have hdigits := lt_digits hlt
  have hbyte : ∀ {k : Nat}, k < 0x100 → (UInt8.ofNat k).toNat = k := UInt8.toNat_ofNat_of_lt'
  unfold String.utf8EncodeChar
  dsimp only
  generalize c.val.toNat = m at *
  generalize d.val.toNat = n at *
  -- a longer encoding starts with a greater byte, and those of one length compare digit by digit
  split_ifs <;>
    simp (disch := omega) only [List.cons_append, List.nil_append, List.cons_lt_cons_iff,
      UInt8.lt_iff_toNat_lt, ← UInt8.toNat_inj, hbyte] <;>
    rcases hdigits with h | ⟨h, h | ⟨h', h | ⟨h'', h⟩⟩⟩ <;> omega

theorem flatMap_utf8EncodeChar_lt {s t : List Char} (h : s < t) :
    s.flatMap String.utf8EncodeChar < t.flatMap String.utf8EncodeChar := by
  induction h with
  | nil =>
    rename_i c rest
    obtain ⟨b, more, hc⟩ := List.exists_cons_of_ne_nil (String.utf8EncodeChar_ne_nil (c := c))
    rw [List.flatMap_cons, hc]
    exact .nil
  | rel h => exact utf8EncodeChar_append_lt h _ _
  | cons _ ih => exact List.append_left_lt ih

theorem bytes_lt {s t : String} (h : s < t) : bytes s < bytes t := by
  rw [bytes_eq, bytes_eq]
  exact flatMap_utf8EncodeChar_lt h

end ClientGen.Text
