/-
Which zero fills reach into the boot stack.

The assertion of a checked image compares bounds, while what it guards is a matter of
addresses: no byte that is zeroed may lie in the stack.  For bounds in order the two say
the same, because two runs of addresses meet where the later one starts, if they meet at
all.  An inverted span has no bytes, and what the comparison says of it means nothing; such
a layout is harmful for the other reason.
-/
import Handoff.Proofs.Stack

namespace Handoff

namespace BootStack

/-- Whether an address lies in the stack. -/
def Contains (s : BootStack) (a : UInt64) : Prop :=
  s.bottom.toNat ≤ a.toNat ∧ a.toNat < s.bottom.toNat + size.toNat

/-- A stack at its alignment, the end of which is still an address. -/
structure Settled (s : BootStack) : Prop where
  aligned : 16 ∣ s.bottom.toNat
  fits : s.bottom.toNat + size.toNat < UInt64.size

/-- The end of the stack is still an address. -/
def Fits (s : BootStack) : Prop :=
  s.bottom.toNat + size.toNat < UInt64.size

instance (s : BootStack) : Decidable s.Fits :=
  inferInstanceAs (Decidable (_ < _))

namespace Fits

variable {s : BootStack} (h : s.Fits)
include h

/-- The top of the stack does not wrap. -/
theorem toNat_top : (s.bottom + size).toNat = s.bottom.toNat + size.toNat := by
  rw [UInt64.toNat_add, Nat.mod_eq_of_lt h]

theorem rawTop_eq (checks : Bool) : s.rawTop checks = .ok (s.bottom + size) := by
  have hle : ¬s.bottom + size < s.bottom := by
    rw [UInt64.lt_iff_toNat_lt, h.toNat_top]
    omega
  simp [rawTop, Word.add, hle]

/-- The comparison of bounds that a checked image makes. -/
theorem overlaps_eq (checks : Bool) (r : Span) :
    s.overlaps checks r =
      .ok (!r.isEmpty && (r.start < s.bottom + size && s.bottom < r.stop)) := by
  unfold overlaps
  rw [h.rawTop_eq]
  cases r.isEmpty <;> simp [Except.map]

/-- The comparison comes to an answer. -/
theorem overlaps_cases (checks : Bool) (r : Span) :
    s.overlaps checks r = .ok true ∨ s.overlaps checks r = .ok false := by
  rw [h.overlaps_eq]
  cases !r.isEmpty && (r.start < s.bottom + size && s.bottom < r.stop) with
  | false => exact Or.inr rfl
  | true => exact Or.inl rfl

/-- For bounds in order the comparison finds a byte that both have in common. -/
theorem overlaps_iff (checks : Bool) {r : Span} (hle : r.start ≤ r.stop) :
    s.overlaps checks r = .ok true ↔ ∃ a, r.Contains a ∧ s.Contains a := by
  have hsize : size.toNat = 65536 := by decide
  have htop := h.toNat_top
  have hbounds : s.overlaps checks r = .ok true ↔
      r.start.toNat ≠ r.stop.toNat ∧ r.start.toNat < s.bottom.toNat + size.toNat ∧
        s.bottom.toNat < r.stop.toNat := by
    rw [h.overlaps_eq, ← htop]
    simp [Span.isEmpty, UInt64.lt_iff_toNat_lt, ← UInt64.toNat_inj]
  rw [UInt64.le_iff_toNat_le] at hle
  rw [hbounds]
  constructor
  · rintro ⟨hne, hstart, hstop⟩
    -- they meet where the later of the two begins
    by_cases hlow : s.bottom.toNat ≤ r.start.toNat
    · refine ⟨r.start, ⟨UInt64.le_refl _, ?_⟩, hlow, hstart⟩
      rw [UInt64.lt_iff_toNat_lt]
      omega
    · refine ⟨s.bottom, ⟨?_, UInt64.lt_iff_toNat_lt.2 hstop⟩, Nat.le_refl _, ?_⟩
      · rw [UInt64.le_iff_toNat_le]
        omega
      · omega
  · rintro ⟨a, ⟨hstart, hstop⟩, hbottom, hend⟩
    rw [UInt64.le_iff_toNat_le] at hstart
    rw [UInt64.lt_iff_toNat_lt] at hstop
    omega

end Fits

/-- In a checked image the end of a stack that does not fit overflows. -/
theorem rawTop_overflow {s : BootStack} (h : ¬s.Fits) : s.rawTop true = .error .addOverflow := by
  have hsize : size.toNat = 65536 := by decide
  have hwide : UInt64.size = 2 ^ 64 := rfl
  have hwraps : s.bottom + size < s.bottom := by
    have hlt := s.bottom.toNat_lt_size
    have hge := Nat.le_of_not_lt h
    rw [UInt64.lt_iff_toNat_lt, UInt64.toNat_add, hsize]
    omega
  rw [rawTop, Word.add, Bool.true_and, if_pos (decide_eq_true hwraps)]

end BootStack

/-! ### Layouts -/

/-- A layout whose storage can be zeroed while the hand-off runs on the stack. -/
structure Layout.Harmless (l : Layout) : Prop where
  ordered : l.zeroed.start ≤ l.zeroed.stop
  apart : ∀ a, l.zeroed.Contains a → ¬l.stack.Contains a

namespace Layout

variable {l : Layout}

section Fits

variable (hfits : l.stack.Fits)
include hfits

theorem Harmless.overlaps_eq (h : l.Harmless) (checks : Bool) :
    l.stack.overlaps checks l.zeroed = .ok false := by
  refine (hfits.overlaps_cases checks l.zeroed).resolve_left fun hover => ?_
  obtain ⟨a, hzeroed, hin⟩ := (hfits.overlaps_iff checks h.ordered).1 hover
  exact h.apart a hzeroed hin

/-- What is harmful is found by the comparison, or else inverted. -/
theorem harmful_cases (h : ¬l.Harmless) (checks : Bool) :
    l.stack.overlaps checks l.zeroed = .ok true ∨
      (l.stack.overlaps checks l.zeroed = .ok false ∧ l.zeroed.stop < l.zeroed.start) := by
  rcases hfits.overlaps_cases checks l.zeroed with hover | hapart
  · exact Or.inl hover
  · refine Or.inr ⟨hapart, UInt64.not_le.1 fun hle => h ⟨hle, fun a hzeroed hin => ?_⟩⟩
    have hover := (hfits.overlaps_iff checks hle).2 ⟨a, hzeroed, hin⟩
    rw [hapart] at hover
    cases hover

/-- The stub and the library agree on the top. -/
theorem top_eq (checks : Bool) : l.stack.top checks = .ok ⟨l.stubStackPointer⟩ := by
  rw [BootStack.top, hfits.rawTop_eq, stubStackPointer_eq]
  rfl

end Fits

/-! ### The stub's stack pointer -/

variable (hstack : l.stack.Settled)
include hstack

/-- The top of the stack needs no rounding. -/
theorem stubStackPointer_eq_top : l.stubStackPointer = l.stack.bottom + BootStack.size := by
  have hsize : BootStack.size.toNat = 65536 := by decide
  have haligned : 16 ∣ (l.stack.bottom + BootStack.size).toNat := by
    have hbottom := hstack.aligned
    rw [BootStack.Fits.toNat_top hstack.fits, hsize]
    omega
  rw [stubStackPointer_eq, StackTop.alignDown_of_aligned haligned]

/-- The return address that a call pushes lies in the stack. -/
theorem pushed_in_stack :
    l.stack.bottom ≤ l.stubStackPointer - 8 ∧
      l.stubStackPointer - 8 - l.stack.bottom < BootStack.size := by
  have hsize : BootStack.size.toNat = 65536 := by decide
  have height : (8 : UInt64).toNat = 8 := by decide
  have htop := BootStack.Fits.toNat_top hstack.fits
  rw [← stubStackPointer_eq_top hstack] at htop
  have hpushed : (l.stubStackPointer - 8).toNat = l.stack.bottom.toNat + 65528 := by
    rw [UInt64.toNat_sub_of_le _ _ (by rw [UInt64.le_iff_toNat_le]; omega)]
    omega
  have hbottom : l.stack.bottom ≤ l.stubStackPointer - 8 := by
    rw [UInt64.le_iff_toNat_le]
    omega
  refine ⟨hbottom, ?_⟩
  rw [UInt64.lt_iff_toNat_lt, UInt64.toNat_sub_of_le _ _ hbottom]
  omega

end Layout

end Handoff
