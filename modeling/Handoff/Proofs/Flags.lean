/-
What the flag operations do to each bit of the word.

The hand-off sets, clears and reads two flags of a word whose other bits belong to
someone else.  So a word is read here as the set of its bits: every operation is
stated by what it does to one bit, and holding a flag of one bit is having that bit.
Masking, unmasking and clearing the direction then follow without the word being
opened again, for every word and whatever its other bits are.
-/
import Handoff.Flags

namespace Handoff

namespace Flags

/-- Whether a bit of the word is set. -/
def bit (f : Flags) (i : Nat) : Bool := f.bits.toBitVec.getLsbD i

theorem bit_union (f g : Flags) (i : Nat) : (f.union g).bit i = (f.bit i || g.bit i) := by
  simp [bit, union]

theorem bit_inter (f g : Flags) (i : Nat) : (f.inter g).bit i = (f.bit i && g.bit i) := by
  simp [bit, inter]

theorem bit_diff (f g : Flags) (i : Nat) : (f.diff g).bit i = (f.bit i && !g.bit i) := by
  by_cases hi : i < 64
  · simp [bit, diff, hi]
  · simp [bit, diff, BitVec.getLsbD_of_ge _ _ (Nat.not_lt.1 hi)]

/-- A word is the set of its bits. -/
theorem ext_bit {f g : Flags} (h : ∀ i, f.bit i = g.bit i) : f = g := by
  cases f
  cases g
  simp only [mk.injEq]
  rw [← UInt64.toBitVec_inj]
  exact BitVec.eq_of_getLsbD_eq fun i _ => h i

/-- It does not matter which of two sets is cleared first. -/
theorem diff_right_comm (f g h : Flags) : (f.diff g).diff h = (f.diff h).diff g := by
  apply ext_bit
  intro i
  simp only [bit_diff]
  exact Bool.and_right_comm ..

/-- What is cleared stays so if it is cleared again. -/
theorem diff_diff (f g : Flags) : (f.diff g).diff g = f.diff g := by
  apply ext_bit
  intro i
  rw [bit_diff, bit_diff, Bool.and_assoc, Bool.and_self]

/-! ### The two known flags -/

theorem interruptEnable_word : interruptEnable.bits.toBitVec = BitVec.twoPow 64 9 := by decide

theorem direction_word : direction.bits.toBitVec = BitVec.twoPow 64 10 := by decide

theorem bit_interruptEnable (i : Nat) : interruptEnable.bit i = (i == 9) := by
  simp only [bit, interruptEnable_word, BitVec.getLsbD_twoPow]
  grind

theorem bit_direction (i : Nat) : direction.bit i = (i == 10) := by
  simp only [bit, direction_word, BitVec.getLsbD_twoPow]
  grind

/-- The known flags are exactly the two bits. -/
theorem bit_all (i : Nat) : all.bit i = (i == 9 || i == 10) := by
  have hall : all = (empty.union interruptEnable).union direction := rfl
  have hempty : empty.bit i = false := by simp [bit, empty]
  rw [hall, bit_union, bit_union, hempty, bit_interruptEnable, bit_direction, Bool.false_or]

/-- Clearing one known flag after the other clears all of them. -/
theorem diff_known (f : Flags) : (f.diff interruptEnable).diff direction = f.diff all := by
  apply ext_bit
  intro i
  rw [bit_diff, bit_diff, bit_diff, bit_interruptEnable, bit_direction, bit_all, Bool.not_or,
    Bool.and_assoc]

/-- A flag of one bit is in a set exactly when that bit is set. -/
theorem contains_eq_bit (f : Flags) {g : Flags} {i : Nat}
    (hg : g.bits.toBitVec = BitVec.twoPow 64 i) (hi : i < 64) : f.contains g = f.bit i := by
  have hone : (BitVec.twoPow 64 i).getLsbD i = true := by simp [hi]
  have hinter : f.inter g = g ↔ f.bits.toBitVec &&& BitVec.twoPow 64 i = BitVec.twoPow 64 i := by
    cases f
    cases g
    simp_all [inter, ← UInt64.toBitVec_inj]
  rw [Bool.eq_iff_iff, contains, beq_iff_eq, hinter, BitVec.and_twoPow]
  show _ ↔ f.bits.toBitVec.getLsbD i = true
  cases hbit : f.bits.toBitVec.getLsbD i with
  | true => simp
  | false =>
    -- without the bit the meet is empty, and no power of two is
    simp only [Bool.false_eq_true, if_false, iff_false]
    intro hzero
    rw [← hzero] at hone
    simp at hone

theorem contains_interruptEnable (f : Flags) : f.contains interruptEnable = f.bit 9 :=
  f.contains_eq_bit interruptEnable_word (by decide)

theorem contains_direction (f : Flags) : f.contains direction = f.bit 10 :=
  f.contains_eq_bit direction_word (by decide)

/-! ### Setting and clearing them -/

@[simp] theorem masked_diff (f : Flags) :
    (f.diff interruptEnable).contains interruptEnable = false := by
  simp [contains_interruptEnable, bit_diff, bit_interruptEnable]

@[simp] theorem enabled_diff_direction (f : Flags) :
    (f.diff direction).contains interruptEnable = f.contains interruptEnable := by
  simp [contains_interruptEnable, bit_diff, bit_direction]

@[simp] theorem direction_diff (f : Flags) : (f.diff direction).contains direction = false := by
  simp [contains_direction, bit_diff, bit_direction]

/-- Dropping the unknown bits hides neither known flag. -/
@[simp] theorem enabled_truncate (f : Flags) :
    f.truncate.contains interruptEnable = f.contains interruptEnable := by
  simp [contains_interruptEnable, truncate, bit_inter, bit_all]

@[simp] theorem direction_truncate (f : Flags) :
    f.truncate.contains direction = f.contains direction := by
  simp [contains_direction, truncate, bit_inter, bit_all]

end Flags

end Handoff
