/-
Rounding down goes to the greatest multiple of 16 that is not above.

That rounding drops the last hexadecimal digit says what it computes.  What its callers count
on is an order: the multiples of 16 up to an address are those up to its stack top.  This
alone determines the stack top, and with it that a second rounding changes nothing and that
a higher address never comes to a lower top; only the distance to the address needs the
digit again.

The entry stub rounds by an `and` with one byte, which the processor extends by its sign.
It comes to the same word for every stack that ends below the highest address, whether its
lowest address is aligned or not.
-/
import Handoff.Proofs.Overlap

namespace Handoff

namespace StackTop

/-- Stack tops are compared by their addresses. -/
theorem le_iff {s t : StackTop} : s ≤ t ↔ s.raw ≤ t.raw := by
  have hcompare : s ≤ t ↔ (compare s.raw t.raw).isLE = true := Iff.rfl
  rw [hcompare, ← Std.isLE_compare]

/-- The stack top is the greatest multiple of 16 that is not above the address. -/
structure Greatest (raw : UInt64) (t : StackTop) : Prop where
  aligned : 16 ∣ t.raw.toNat
  le_iff : ∀ a : UInt64, 16 ∣ a.toNat → (a ≤ raw ↔ a ≤ t.raw)

namespace Greatest

variable {raw raw' : UInt64} {s t : StackTop}

/-- It is itself not above the address. -/
theorem le (h : Greatest raw t) : t.raw ≤ raw :=
  (h.le_iff t.raw h.aligned).2 (UInt64.le_refl _)

/-- A higher address has no lower top. -/
theorem mono (h : Greatest raw s) (h' : Greatest raw' t) (hle : raw ≤ raw') : s.raw ≤ t.raw :=
  (h'.le_iff s.raw h.aligned).1 (UInt64.le_trans h.le hle)

/-- There is only one. -/
theorem unique (h : Greatest raw s) (h' : Greatest raw t) : s = t := by
  have hraw : s.raw = t.raw :=
    UInt64.le_antisymm (h.mono h' (UInt64.le_refl _)) (h'.mono h (UInt64.le_refl _))
  cases s
  cases t
  exact congrArg StackTop.mk hraw

/-- A multiple of 16 is its own top. -/
theorem of_aligned (h : 16 ∣ t.raw.toNat) : Greatest t.raw t where
  aligned := h
  le_iff _ _ := Iff.rfl

end Greatest

/-- Rounding down finds it. -/
theorem greatest_alignDown (raw : UInt64) : Greatest raw (alignDown raw) where
  aligned := alignDown_aligned raw
  le_iff a ha := by
    obtain ⟨k, hk⟩ := ha
    rw [UInt64.le_iff_toNat_le, UInt64.le_iff_toNat_le, toNat_alignDown, hk]
    omega

/-- The mask of the stub is the byte -16, extended by its sign. -/
theorem toBitVec_neg_alignment :
    (-alignment).toBitVec = (BitVec.ofInt 8 (-16)).signExtend 64 := by decide

/-- What is known of the stack top that an address is rounded down to. -/
structure Rounds (raw : UInt64) : Prop where
  greatest : Greatest raw (alignDown raw)
  le : (alignDown raw).raw ≤ raw
  near : raw.toNat - (alignDown raw).raw.toNat ≤ 15
  idempotent : alignDown (alignDown raw).raw = alignDown raw
  monotone : ∀ raw', raw ≤ raw' → alignDown raw ≤ alignDown raw'

/-- The entry stub rounds the end of the stack, which is still an address, as the library does. -/
structure StubRounds (l : Layout) : Prop where
  top : (l.stack.bottom + BootStack.size).toNat = l.stack.bottom.toNat + 65536
  masked : l.stubStackPointer.toBitVec =
    (l.stack.bottom + BootStack.size).toBitVec &&& (BitVec.ofInt 8 (-16)).signExtend 64
  rounded : l.stubStackPointer = (alignDown (l.stack.bottom + BootStack.size)).raw
  /-- It is the stack pointer that the library computes for the stack, on every build. -/
  library : ∀ checks, l.stack.top checks = .ok ⟨l.stubStackPointer⟩

theorem rounds (raw : UInt64) : Rounds raw where
  greatest := greatest_alignDown raw
  le := (greatest_alignDown raw).le
  near := by
    rw [toNat_alignDown]
    omega
  idempotent :=
    have haligned := Greatest.of_aligned (alignDown_aligned raw)
    (greatest_alignDown (alignDown raw).raw).unique haligned
  monotone raw' hle :=
    le_iff.2 ((greatest_alignDown raw).mono (greatest_alignDown raw') hle)

theorem stubRounds {l : Layout} (hfits : l.stack.Fits) : StubRounds l where
  top := by
    have hsize : BootStack.size.toNat = 65536 := by decide
    rw [hfits.toNat_top, hsize]
  masked := by
    rw [Layout.stubStackPointer, UInt64.toBitVec_and, toBitVec_neg_alignment]
  rounded := l.stubStackPointer_eq
  library := l.top_eq hfits

/-- **Every address is rounded down to the greatest multiple of 16 that is not above it**, and the
stub and the library round the end of every stack alike. -/
theorem rounds_down (raw : UInt64) :
    Rounds raw ∧
      ∀ l : Layout, l.stack.bottom.toNat + 65536 < UInt64.size → StubRounds l := by
  refine ⟨rounds raw, fun l hend => stubRounds ?_⟩
  have hsize : BootStack.size.toNat = 65536 := by decide
  rw [BootStack.Fits, hsize]
  exact hend

/-- The highest address there is, and a stack at an odd address that ends with it. -/
theorem rounds_down_highest :
    let l : Layout := ⟨⟨0, 0⟩, ⟨0xfffffffffffeffff⟩⟩
    l.stack.bottom.toNat + 65536 < UInt64.size ∧ Rounds 0xffffffffffffffff ∧ StubRounds l ∧
      l.stubStackPointer = 0xfffffffffffffff0 := by
  intro l
  have hend : l.stack.bottom.toNat + 65536 < UInt64.size := by decide
  obtain ⟨hrounds, hstub⟩ := rounds_down 0xffffffffffffffff
  exact ⟨hend, hrounds, hstub l hend, by decide⟩

end StackTop

end Handoff
