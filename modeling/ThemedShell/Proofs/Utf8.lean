import Mathlib.Tactic.IntervalCases
import ThemedShell.Text.Utf8

/-!
# Reading what has been written

The bytes of a character take the decoder from between two characters to behind this one
(`foldl_step_utf8EncodeChar`): the first byte says how many follow and which bounds the next one has,
and these leave out just what no character is written as. So a text is read back from its bytes
(`decodeLossy_encode`).
-/
namespace ThemedShell.Text

/-! ## Bytes -/

theorem toNat_ofNat {n : Nat} (h : n < 0x100) : (UInt8.ofNat n).toNat = n := by
  rw [UInt8.toNat_ofNat', Nat.mod_eq_of_lt h]

namespace Lead

theorem ofByte_whole {n : Nat} (h : n < 0x80) :
    ofByte (UInt8.ofNat n) = .whole (Char.ofNat n) := by
  have byte := toNat_ofNat (show n < 0x100 by omega)
  rw [ofByte, if_pos (UInt8.lt_iff_toNat_lt.2 (by rw [byte]; exact h)), byte]

theorem ofByte_two {n : Nat} (low : 2 ≤ n) (high : n < 0x20) :
    ofByte (UInt8.ofNat (n + 0xC0)) = .begins ⟨n, 1, 0x80, 0xBF⟩ := by
  interval_cases n <;> rfl

theorem ofByte_three {n : Nat} (high : n < 0x10) :
    ofByte (UInt8.ofNat (n + 0xE0)) =
      .begins ⟨n, 2, if n = 0 then 0xA0 else 0x80, if n = 0xD then 0x9F else 0xBF⟩ := by
  interval_cases n <;> rfl

theorem ofByte_four {n : Nat} (high : n < 5) :
    ofByte (UInt8.ofNat (n + 0xF0)) =
      .begins ⟨n, 3, if n = 0 then 0x90 else 0x80, if n = 4 then 0x8F else 0xBF⟩ := by
  interval_cases n <;> rfl

end Lead

namespace Decoder

variable (read : List (Option Char))

theorem step_begins {b : UInt8} {begun : Begun} (h : Lead.ofByte b = .begins begun) :
    step ⟨none, read⟩ b = ⟨some begun, read⟩ := by
  rw [step, lead, h]

/-- A byte within the bounds adds its six bits. -/
theorem step_continues {value need n : Nat} {low high : UInt8} (bits : n < 0x40)
    (least : low.toNat ≤ n + 0x80) (most : n + 0x80 ≤ high.toNat) :
    step ⟨some ⟨value, need, low, high⟩, read⟩ (UInt8.ofNat (n + 0x80)) =
      if need = 1 then ⟨none, some (Char.ofNat (value * 0x40 + n)) :: read⟩
      else ⟨some ⟨value * 0x40 + n, need - 1, 0x80, 0xBF⟩, read⟩ := by
  have byte := toNat_ofNat (show n + 0x80 < 0x100 by omega)
  generalize UInt8.ofNat (n + 0x80) = b at byte ⊢
  have inside : within low high b = true := by
    simp [within, UInt8.le_iff_toNat_le, byte, least, most]
  simp [step, inside, byte]

/-- **A character is read back from its bytes.** -/
theorem foldl_step_utf8EncodeChar (c : Char) :
    (String.utf8EncodeChar c).foldl step ⟨none, read⟩ = ⟨none, some c :: read⟩ := by
  have whole : ∀ n, n = c.val.toNat → Char.ofNat n = c := by
    rintro n rfl
    exact Char.ofNat_toNat c
  have valid : c.val.toNat < 0xD800 ∨ 0xDFFF < c.val.toNat ∧ c.val.toNat < 0x110000 := c.valid
  rw [String.utf8EncodeChar]
  generalize c.val.toNat = v at whole valid ⊢
  split
  · next one =>
    rw [List.foldl_cons, List.foldl_nil, step, lead, Lead.ofByte_whole (by omega), whole v rfl]
  split
  · next more two =>
    simp only [List.foldl_cons, List.foldl_nil]
    rw [step_begins read (Lead.ofByte_two (by omega) (by omega)),
      step_continues read (by omega) (by simp) (by simp; omega), if_pos rfl, whole _ (by omega)]
  split
  · next more three =>
    simp only [List.foldl_cons, List.foldl_nil]
    rw [step_begins read (Lead.ofByte_three (by omega)),
      step_continues read (by omega) (by split <;> simp; omega) (by split <;> simp <;> omega),
      if_neg (by decide), step_continues read (by omega) (by simp) (by simp; omega), if_pos rfl,
      whole _ (by omega)]
  · next more =>
    simp only [List.foldl_cons, List.foldl_nil]
    rw [step_begins read (Lead.ofByte_four (by omega)),
      step_continues read (by omega) (by split <;> simp; omega) (by split <;> simp <;> omega),
      if_neg (by decide), step_continues read (by omega) (by simp) (by simp; omega),
      if_neg (by decide), step_continues read (by omega) (by simp) (by simp; omega), if_pos rfl,
      whole _ (by omega)]

theorem foldl_step_encode (cs : List Char) :
    (cs.flatMap String.utf8EncodeChar).foldl step ⟨none, read⟩ =
      ⟨none, (cs.map some).reverse ++ read⟩ := by
  induction cs generalizing read with
  | nil => rfl
  | cons c rest ih =>
    rw [List.flatMap_cons, List.foldl_append, foldl_step_utf8EncodeChar, ih]
    simp

end Decoder

/-! ## Texts -/

theorem decodeEach_encode (s : String) : decodeEach (encode s) = s.toList.map some := by
  rw [decodeEach, encode, Decoder.foldl_step_encode [] s.toList]
  simp [Decoder.finish]

/-- **A text is read back from its bytes.** -/
theorem decodeLossy_encode (s : String) : decodeLossy (encode s) = s := by
  rw [decodeLossy, decodeEach_encode, List.map_map]
  simp [Function.comp_def]

end ThemedShell.Text
