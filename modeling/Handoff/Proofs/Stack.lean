/-
Stack tops, as numbers.

Rounding down is a mask on a word.  It is read here as arithmetic: it drops the last
hexadecimal digit, so the result is a multiple of 16, and an address that already is
one stays.  The entry stub has a mask of its own, written as the negative of the
alignment; the two masks are the same word, so the stub and the library agree on every
stack.
-/
import Handoff.Image

namespace Handoff

namespace StackTop

/-- The mask keeps every bit but the last four. -/
theorem mask_bit (i : Nat) (hi : i < 64) :
    (~~~(alignment - 1)).toBitVec.getLsbD i = decide (4 ≤ i) := by
  revert i
  decide

/-- Rounding down drops the last hexadecimal digit. -/
theorem toNat_alignDown (raw : UInt64) : (alignDown raw).raw.toNat = raw.toNat / 16 * 16 := by
  have hshift : (alignDown raw).raw.toBitVec = raw.toBitVec >>> 4 <<< 4 := by
    apply BitVec.eq_of_getLsbD_eq
    intro i hi
    rw [alignDown, UInt64.toBitVec_and, BitVec.getLsbD_and, mask_bit i hi]
    by_cases hlow : 4 ≤ i
    · simp [hi, hlow]
    · simp [hlow, Nat.lt_of_not_le hlow]
  have hsmall : raw.toNat / 16 * 16 < 2 ^ 64 := by
    have := raw.toNat_lt
    omega
  rw [← UInt64.toNat_toBitVec, hshift, BitVec.toNat_shiftLeft, BitVec.toNat_ushiftRight,
    UInt64.toNat_toBitVec, Nat.shiftLeft_eq, Nat.shiftRight_eq_div_pow]
  exact Nat.mod_eq_of_lt hsmall

theorem alignDown_aligned (raw : UInt64) : 16 ∣ (alignDown raw).raw.toNat := by
  rw [toNat_alignDown]
  exact Nat.dvd_mul_left 16 _

/-- An aligned address is its own stack top. -/
theorem alignDown_of_aligned {raw : UInt64} (h : 16 ∣ raw.toNat) : alignDown raw = ⟨raw⟩ := by
  have hraw : (alignDown raw).raw = raw := by
    rw [← UInt64.toNat_inj, toNat_alignDown]
    exact Nat.div_mul_cancel h
  exact congrArg StackTop.mk hraw

end StackTop

/-- The stub's mask and the library's are the same word. -/
theorem Layout.stubStackPointer_eq (l : Layout) :
    l.stubStackPointer = (StackTop.alignDown (l.stack.bottom + BootStack.size)).raw := by
  have hmask : -StackTop.alignment = ~~~(StackTop.alignment - 1) := by decide
  rw [stubStackPointer, hmask]
  rfl

end Handoff
