import Mathlib
import ThemedShell.Proofs.Utf8

/-!
# ASCII characters and their bytes

The byte of an ASCII character stands for this character wherever it occurs: a text has the byte only
if it has the character (`mem_encode`), and what has been read has the character only if the byte was
there (`byteOf_mem_of_mem_decodeLossy`), however malformed the rest may be.
-/
namespace ThemedShell.Text

/-- The byte that an ASCII character is written as. -/
def byteOf (c : Char) : UInt8 := UInt8.ofNat c.toNat

/-! ## Writing -/

theorem byteOf_mem_utf8EncodeChar {c d : Char} (ascii : c.toNat < 0x80) :
    byteOf c ∈ String.utf8EncodeChar d ↔ d = c := by
  have byte : ∀ n, byteOf c = UInt8.ofNat n ↔ n % 0x100 = c.toNat := fun n => by
    rw [byteOf, ← UInt8.toNat_inj, toNat_ofNat (by omega), UInt8.toNat_ofNat', eq_comm]
  have value : d.toNat = d.val.toNat := rfl
  rw [← Char.toNat_inj, String.utf8EncodeChar, value]
  -- Every byte of a longer code is 128 or more.
  split
  · rw [List.mem_singleton, byte]
    omega
  · split
    · simp only [List.mem_cons, List.not_mem_nil, or_false, byte]
      omega
    · split <;>
      · simp only [List.mem_cons, List.not_mem_nil, or_false, byte]
        omega

theorem mem_encode {c : Char} (ascii : c.toNat < 0x80) (s : String) :
    byteOf c ∈ encode s ↔ c ∈ s.toList := by
  simp [encode, List.mem_flatMap, byteOf_mem_utf8EncodeChar ascii]

/-! ## Reading -/

/-- The character can come to no value below 128. -/
def Begun.Wide (b : Begun) : Prop :=
  0x80 ≤ b.low.toNat ∧ 0x80 ≤ (b.value * 0x40 + (b.low.toNat - 0x80)) * 0x40 ^ (b.need - 1)

instance (b : Begun) : Decidable b.Wide := inferInstanceAs (Decidable (_ ∧ _))

/-- One more byte only adds to the value. -/
theorem Begun.Wide.next {begun : Begun} (h : begun.Wide) {bits : Nat}
    (above : begun.low.toNat - 0x80 ≤ bits) :
    Wide ⟨begun.value * 0x40 + bits, begun.need - 1, 0x80, 0xBF⟩ := by
  have power : ∀ k, 0x40 ^ k ≤ 0x40 * 0x40 ^ (k - 1) := fun k => by
    cases k with
    | zero => decide
    | succ k => rw [Nat.pow_succ', Nat.add_sub_cancel]
  have least : (0x80 : UInt8).toNat = 0x80 := rfl
  refine ⟨Nat.le_of_eq least.symm, ?_⟩
  dsimp only
  rw [least]
  calc 0x80
    _ ≤ (begun.value * 0x40 + (begun.low.toNat - 0x80)) * 0x40 ^ (begun.need - 1) := h.2
    _ ≤ (begun.value * 0x40 + bits) * 0x40 ^ (begun.need - 1) :=
      Nat.mul_le_mul_right _ (Nat.add_le_add_left above _)
    _ ≤ (begun.value * 0x40 + bits) * (0x40 * 0x40 ^ (begun.need - 1 - 1)) :=
      Nat.mul_le_mul_left _ (power _)
    _ = ((begun.value * 0x40 + bits) * 0x40 + (0x80 - 0x80)) * 0x40 ^ (begun.need - 1 - 1) := by
      rw [Nat.sub_self, Nat.add_zero, Nat.mul_assoc]

/-- What a byte begins is the character whose byte it is, or can come to no ASCII character. -/
def Lead.Fits (b : UInt8) : Lead → Prop
  | .malformed => True
  | .whole c => byteOf c = b
  | .begins begun => begun.Wide

instance (b : UInt8) (lead : Lead) : Decidable (lead.Fits b) :=
  match lead with
  | .malformed => inferInstanceAs (Decidable True)
  | .whole c => inferInstanceAs (Decidable (byteOf c = b))
  | .begins begun => inferInstanceAs (Decidable begun.Wide)

theorem Lead.fits_ofByte (b : UInt8) : (ofByte b).Fits b := by
  have all : ∀ n : Fin 0x100, (ofByte (UInt8.ofNat n)).Fits (UInt8.ofNat n) := by decide +kernel
  simpa using all ⟨b.toNat, b.toNat_lt⟩

namespace Decoder

/-- Each ASCII character but NUL that has been read is there among the bytes, and what has begun comes
to none. -/
structure Faithful (bs : Octets) (d : Decoder) : Prop where
  read : ∀ c, some c ∈ d.read → 0 < c.toNat → c.toNat < 0x80 → byteOf c ∈ bs
  begun : ∀ b ∈ d.begun, b.Wide

variable {bs : Octets} {read : List (Option Char)}

theorem Faithful.malformed {d : Decoder} (h : d.Faithful bs) :
    ∀ c, some c ∈ none :: d.read → 0 < c.toNat → c.toNat < 0x80 → byteOf c ∈ bs :=
  fun c hc => h.read c ((List.mem_cons.1 hc).resolve_left nofun)

/-- A value of 128 or more is no ASCII character, or no character at all, for which NUL stands. -/
theorem not_ascii_ofNat {value : Nat} (wide : 0x80 ≤ value) :
    (Char.ofNat value).toNat = 0 ∨ 0x80 ≤ (Char.ofNat value).toNat := by
  rw [Char.toNat_ofNat]
  split
  · exact .inr wide
  · exact .inl rfl

theorem faithful_lead {b : UInt8} (hb : b ∈ bs)
    (h : ∀ c, some c ∈ read → 0 < c.toNat → c.toNat < 0x80 → byteOf c ∈ bs) :
    (lead read b).Faithful bs := by
  have fits := Lead.fits_ofByte b
  unfold lead
  split
  · exact ⟨fun c hc => h c ((List.mem_cons.1 hc).resolve_left nofun), nofun⟩
  · next c whole =>
    rw [whole] at fits
    refine ⟨fun d hd => ?_, nofun⟩
    rcases List.mem_cons.1 hd with same | hd
    · obtain rfl := Option.some.inj same
      exact fun _ _ => fits ▸ hb
    · exact h d hd
  · next begun begins =>
    rw [begins] at fits
    exact ⟨h, fun b hb => Option.some.inj hb ▸ fits⟩

theorem Faithful.step {d : Decoder} (h : d.Faithful bs) {b : UInt8} (hb : b ∈ bs) :
    (d.step b).Faithful bs := by
  unfold Decoder.step
  split
  · exact faithful_lead hb h.read
  · next begun hbegun =>
    have wide := h.begun begun hbegun
    split
    · next inside =>
      have above : begun.low.toNat ≤ b.toNat :=
        UInt8.le_iff_toNat_le.1 (of_decide_eq_true (Bool.and_eq_true_iff.1 inside).1)
      dsimp only
      split
      · next last =>
        refine ⟨fun c hc => ?_, nofun⟩
        rcases List.mem_cons.1 hc with same | hc
        · have reached : 0x80 ≤ begun.value * 64 + (b.toNat - 0x80) := by
            have least := wide.2
            rw [last, Nat.sub_self, Nat.pow_zero, Nat.mul_one] at least
            omega
          have := not_ascii_ofNat reached
          rw [← Option.some.inj same] at this
          omega
        · exact h.read c hc
      · next more =>
        refine ⟨h.read, fun next hnext => ?_⟩
        rw [← Option.some.inj hnext]
        exact wide.next (Nat.sub_le_sub_right above 0x80)
    · exact faithful_lead hb h.malformed

theorem faithful_foldl (bs : Octets) :
    ∀ (rest : Octets) (d : Decoder), rest ⊆ bs → d.Faithful bs → (rest.foldl Decoder.step d).Faithful bs
  | [], _, _, h => h
  | b :: rest, d, sub, h => by
    obtain ⟨hb, sub⟩ := List.cons_subset.1 sub
    exact faithful_foldl bs rest (d.step b) sub (h.step hb)

/-- In the end only malformed stretches are added. -/
theorem mem_read_of_mem_finish {d : Decoder} {c : Char} (h : some c ∈ d.finish) :
    some c ∈ d.read := by
  have mem := List.mem_reverse.1 h
  cases hbegun : d.begun with
  | none => rwa [hbegun] at mem
  | some begun =>
    rw [hbegun] at mem
    exact (List.mem_cons.1 mem).resolve_left nofun

end Decoder

/-- **What is read was there.** -/
theorem byteOf_mem_of_mem_decodeLossy {c : Char} (visible : 0 < c.toNat) (ascii : c.toNat < 0x80)
    {bs : Octets} (h : c ∈ (decodeLossy bs).toList) : byteOf c ∈ bs := by
  have faithful : (bs.foldl Decoder.step {}).Faithful bs :=
    Decoder.faithful_foldl bs bs {} (List.Subset.refl bs) ⟨nofun, nofun⟩
  rw [decodeLossy, String.toList_ofList, decodeEach] at h
  obtain ⟨character, mem, hc⟩ := List.mem_map.1 h
  cases character with
  | none =>
    obtain rfl : replacement = c := hc
    exact absurd ascii (by decide)
  | some d =>
    obtain rfl : d = c := hc
    exact faithful.read d (Decoder.mem_read_of_mem_finish mem) visible ascii

end ThemedShell.Text
