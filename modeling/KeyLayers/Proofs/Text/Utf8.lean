import KeyLayers.Text.Utf8
import Mathlib.Data.List.Basic
import Mathlib.Tactic.SplitIfs

/-!
# The bytes of a text are read as the text

A character has between one and four bytes.  The first of them says how many
there are, and it bounds the second where fewer bytes would do, where a surrogate
would be spelt, and behind the last character.  No character violates such a
bound, so the decoder finds no fault in the bytes of a text and puts every number
together again.

## Main results

* `decodeFrom_utf8EncodeChar` — the bytes of one character.
* `decode_toUTF8` — **the bytes of a text are read as the text.**
-/

namespace KeyLayers.Text.Utf8

/-! ### The decoder, byte by byte -/

theorem Lead.ofByte_two {b : ℕ} (h : 0xC2 ≤ b) (h' : b < 0xE0) :
    ofByte b = .multi 1 0x80 0xBF (b - 0xC0) := by
  rw [ofByte, if_neg (by omega), if_neg (by omega), if_pos h']

theorem Lead.ofByte_three {b : ℕ} (h : 0xE0 ≤ b) (h' : b < 0xF0) :
    ofByte b = .multi 2 (if b = 0xE0 then 0xA0 else 0x80) (if b = 0xED then 0x9F else 0xBF)
      (b - 0xE0) := by
  rw [ofByte, if_neg (by omega), if_neg (by omega), if_neg (by omega)]
  by_cases hlow : b = 0xE0
  · simp [hlow]
  · by_cases hhigh : b = 0xED
    · simp [hhigh]
    · simp [hlow, hhigh, h']

theorem Lead.ofByte_four {b : ℕ} (h : 0xF0 ≤ b) (h' : b ≤ 0xF4) :
    ofByte b = .multi 3 (if b = 0xF0 then 0x90 else 0x80) (if b = 0xF4 then 0x8F else 0xBF)
      (b - 0xF0) := by
  rw [ofByte, if_neg (by omega), if_neg (by omega), if_neg (by omega), if_neg (by omega),
    if_neg (by omega), if_neg (by omega)]
  by_cases hlow : b = 0xF0
  · simp [hlow]
  · by_cases hhigh : b = 0xF4
    · simp [hhigh]
    · simp [hlow, hhigh, show b < 0xF4 by omega]

variable {pos : ℕ} {b : UInt8} {bytes : List UInt8}

theorem decodeFrom_single (h : b.toNat < 0x80) :
    decodeFrom pos .ready (b :: bytes) =
      (decodeFrom (pos + 1) .ready bytes).map (Char.ofNat b.toNat :: ·) := by
  rw [decodeFrom, Lead.ofByte, if_pos h]

theorem decodeFrom_multi {extra low high bits : ℕ}
    (h : Lead.ofByte b.toNat = .multi extra low high bits) :
    decodeFrom pos .ready (b :: bytes) =
      decodeFrom (pos + 1) (.inside pos b 0 (extra - 1) low high bits) bytes := by
  rw [decodeFrom, h]

theorem decodeFrom_inside {start seen left low high bits : ℕ} {first : UInt8}
    (hlow : low ≤ b.toNat) (hhigh : b.toNat ≤ high) :
    decodeFrom pos (.inside start first seen (left + 1) low high bits) (b :: bytes) =
      decodeFrom (pos + 1) (.inside start first (seen + 1) left 0x80 0xBF
        (bits * 0x40 + (b.toNat - 0x80))) bytes := by
  rw [decodeFrom, if_pos ⟨hlow, hhigh⟩]

theorem decodeFrom_last {start seen low high bits : ℕ} {first : UInt8}
    (hlow : low ≤ b.toNat) (hhigh : b.toNat ≤ high) :
    decodeFrom pos (.inside start first seen 0 low high bits) (b :: bytes) =
      (decodeFrom (pos + 1) .ready bytes).map
        (Char.ofNat (bits * 0x40 + (b.toNat - 0x80)) :: ·) := by
  rw [decodeFrom, if_pos ⟨hlow, hhigh⟩]

/-! ### Characters and texts -/

theorem toNat_ofNat {n : ℕ} (h : n < 0x100) : (UInt8.ofNat n).toNat = n :=
  UInt8.toNat_ofNat_of_lt' h

/-- The bytes of a character are read as the character, wherever they stand. -/
theorem decodeFrom_utf8EncodeChar (c : Char) {s : List Char}
    (h : ∀ pos, decodeFrom pos .ready bytes = .ok s) :
    decodeFrom pos .ready (String.utf8EncodeChar c ++ bytes) = .ok (c :: s) := by
  have hvalid : c.toNat < 0xD800 ∨ 0xDFFF < c.toNat ∧ c.toNat < 0x110000 := c.valid
  have hc {n : ℕ} (hn : n = c.toNat) : Char.ofNat n = c := by rw [hn, Char.ofNat_toNat]
  generalize hv : c.toNat = v at hvalid hc
  unfold String.utf8EncodeChar
  rw [show c.val.toNat = v from hv]
  -- one case for each number of bytes; the first byte bounds the second only from three bytes on
  by_cases h₁ : v ≤ 0x7F
  · have hb := toNat_ofNat (n := v) (by omega)
    simp only [if_pos h₁, List.cons_append, List.nil_append]
    rw [decodeFrom_single (by omega), h, hc (by omega)]
    rfl
  by_cases h₂ : v ≤ 0x7FF
  · have hb₁ := toNat_ofNat (n := v / 64 % 32 + 192) (by omega)
    have hb₂ := toNat_ofNat (n := v % 64 + 128) (by omega)
    simp only [if_neg h₁, if_pos h₂, List.cons_append, List.nil_append]
    rw [decodeFrom_multi (Lead.ofByte_two (by omega) (by omega)),
      decodeFrom_last (by omega) (by omega), h, hc (by omega)]
    rfl
  by_cases h₃ : v ≤ 0xFFFF
  · have hb₁ := toNat_ofNat (n := v / 4096 % 16 + 224) (by omega)
    have hb₂ := toNat_ofNat (n := v / 64 % 64 + 128) (by omega)
    have hb₃ := toNat_ofNat (n := v % 64 + 128) (by omega)
    simp only [if_neg h₁, if_neg h₂, if_pos h₃, List.cons_append, List.nil_append]
    rw [decodeFrom_multi (Lead.ofByte_three (by omega) (by omega)),
      decodeFrom_inside (by split_ifs <;> omega) (by split_ifs <;> omega),
      decodeFrom_last (by omega) (by omega), h, hc (by omega)]
    rfl
  · have hb₁ := toNat_ofNat (n := v / 262144 % 8 + 240) (by omega)
    have hb₂ := toNat_ofNat (n := v / 4096 % 64 + 128) (by omega)
    have hb₃ := toNat_ofNat (n := v / 64 % 64 + 128) (by omega)
    have hb₄ := toNat_ofNat (n := v % 64 + 128) (by omega)
    simp only [if_neg h₁, if_neg h₂, if_neg h₃, List.cons_append, List.nil_append]
    rw [decodeFrom_multi (Lead.ofByte_four (by omega) (by omega)),
      decodeFrom_inside (by split_ifs <;> omega) (by split_ifs <;> omega),
      decodeFrom_inside (by omega) (by omega), decodeFrom_last (by omega) (by omega), h,
      hc (by omega)]
    rfl

theorem decodeFrom_flatMap (s : List Char) (pos : ℕ) :
    decodeFrom pos .ready (s.flatMap String.utf8EncodeChar) = .ok s := by
  induction s generalizing pos with
  | nil => rfl
  | cons c s ih =>
    rw [List.flatMap_cons]
    exact decodeFrom_utf8EncodeChar c ih

/-- The bytes that are left are put behind those that have been read, which stand in
reverse. -/
theorem toList_loop {bytes : ByteArray} {i left : ℕ} (h : i + left = bytes.size)
    (read : List UInt8) :
    ByteArray.toList.loop bytes i read = read.reverse ++ bytes.data.toList.drop i := by
  have hlength : bytes.data.toList.length = i + left := by simpa using h.symm
  induction left generalizing i read with
  | zero =>
    rw [ByteArray.toList.loop, if_neg (by omega), List.drop_of_length_le (by omega),
      List.append_nil]
  | succ left ih =>
    have hi : i < bytes.size := by omega
    have hget : bytes.data.toList[i] = bytes.get! i := by simp [ByteArray.get!, hi]
    rw [ByteArray.toList.loop, if_pos hi, ih (by omega) _ (by omega),
      List.drop_eq_getElem_cons (i := i) (by omega), hget]
    simp

theorem toList_toUTF8 (s : String) :
    s.toUTF8.toList = s.toList.flatMap String.utf8EncodeChar := by
  have hbytes : s.toUTF8 = (s.toList.flatMap String.utf8EncodeChar).toByteArray := by
    conv_lhs => rw [← String.ofList_toList (s := s)]
    rfl
  rw [ByteArray.toList, toList_loop (Nat.zero_add _), hbytes, List.toList_data_toByteArray]
  rfl

/-- **The bytes of a text are read as the text.** -/
theorem decode_toUTF8 (s : String) : decode s.toUTF8.toList = .ok s.toList := by
  rw [toList_toUTF8]
  exact decodeFrom_flatMap s.toList 0

end KeyLayers.Text.Utf8
