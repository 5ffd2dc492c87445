/-
A zero fill zeroes the storage that it is given, and nothing else.

The native processor of the bare machine, which is that of an image, zeroes with the string
store, and that stops at the first address that it cannot write.  Where every byte of the
span can be written it never stops early, and then it is one fill, as on every other
processor: a byte of the memory is zero afterwards if it lies in the span, and what it was
if it does not.
-/
import Handoff.Image
import Handoff.Proofs.Memory
import Handoff.Proofs.Processor
import Handoff.Proofs.Steps

namespace Handoff

/-! ### Storage that can be written -/

/-- Every byte of the span is there to be written. -/
def Memory.Writable (m : Memory) (span : Span) : Prop :=
  ∀ a, span.Contains a → (m.byte? a).isSome = true

namespace Memory

variable {m : Memory} {a : UInt64}

theorem byte?_isSome :
    (m.byte? a).isSome = true ↔
      m.base.toNat ≤ a.toNat ∧ a.toNat < m.base.toNat + m.bytes.size := by
  unfold byte?
  split
  · rename_i hbase
    rw [UInt64.le_iff_toNat_le] at hbase
    have hsome : (m.bytes[a.toNat - m.base.toNat]?).isSome = true ↔
        a.toNat - m.base.toNat < m.bytes.size := by simp
    rw [hsome]
    omega
  · rename_i hbase
    rw [UInt64.le_iff_toNat_le] at hbase
    simp [hbase]

/-- A span can be written if the memory holds it as a whole. -/
theorem writable_iff {span : Span} (hlt : span.start < span.stop) :
    m.Writable span ↔ m.Holds span.start (span.stop - span.start).toNat := by
  have hlt' := UInt64.lt_iff_toNat_lt.1 hlt
  have hcount := UInt64.toNat_sub_of_le _ _ (UInt64.le_of_lt hlt)
  constructor
  · intro h
    -- the first and the last byte are enough
    have hone : (1 : UInt64) ≤ span.stop := by
      rw [UInt64.le_iff_toNat_le, UInt64.toNat_one]
      omega
    have hpred : (span.stop - 1).toNat = span.stop.toNat - 1 := by
      rw [UInt64.toNat_sub_of_le _ _ hone, UInt64.toNat_one]
    have hin : span.Contains (span.stop - 1) := by
      rw [Span.Contains, UInt64.le_iff_toNat_le, UInt64.lt_iff_toNat_lt, hpred]
      omega
    have hfirst := byte?_isSome.1 (h span.start ⟨UInt64.le_refl _, hlt⟩)
    have hlast := byte?_isSome.1 (h (span.stop - 1) hin)
    rw [Holds, hcount]
    omega
  · intro h a ha
    rw [Span.Contains, UInt64.le_iff_toNat_le, UInt64.lt_iff_toNat_lt] at ha
    rw [Holds, hcount] at h
    rw [byte?_isSome]
    omega

end Memory

/-! ### The zero fill of a build -/

namespace Build

variable (b : Build) (cpu : Processor) (span : Span) (m : Machine)

/-- A zero fill is one fill on every processor, of no bytes if the span is empty. -/
theorem memory_zeroed (hle : span.start ≤ span.stop) (h : m.memory.Writable span) :
    ((b.platform cpu).zeroed span m).memory =
      m.memory.fill span.start (span.stop - span.start).toNat 0 := by
  unfold Platform.zeroed
  by_cases hempty : span.start = span.stop
  · rw [if_pos (by simp [Span.isEmpty, hempty]), hempty, UInt64.sub_self]
    exact (m.memory.fill_zero ..).symm
  · have hlt : span.start < span.stop := UInt64.lt_of_le_of_ne hle hempty
    have hcount := UInt64.toNat_sub_of_le _ _ hle
    have hstop := span.stop.toNat_lt_size
    have hlt' := UInt64.lt_iff_toNat_lt.1 hlt
    rw [if_neg (by simp [Span.isEmpty, hempty])]
    rcases b.zeroBytes_cases cpu span.start (span.stop - span.start) with hzero | hzero | hzero
    · rw [hzero]
      rfl
    · rw [hzero]
      exact Memory.storeString_eq_fill ((Memory.writable_iff hlt).1 h) (by omega) 0
    · rw [hzero]
      rfl

/-- A zero fill zeroes exactly the span. -/
theorem byte?_zeroed (hle : span.start ≤ span.stop) (h : m.memory.Writable span) (a : UInt64) :
    ((b.platform cpu).zeroed span m).memory.byte? a =
      if span.Contains a then some 0 else m.memory.byte? a := by
  rw [b.memory_zeroed cpu span m hle h]
  by_cases hempty : span.start = span.stop
  · have hnone : ¬span.Contains a := by
      rintro ⟨hstart, hstop⟩
      exact absurd hstop (UInt64.not_lt.2 (hempty ▸ hstart))
    rw [if_neg hnone, hempty, UInt64.sub_self]
    exact congrArg (Memory.byte? · a) (m.memory.fill_zero ..)
  · have hlt : span.start < span.stop := UInt64.lt_of_le_of_ne hle hempty
    have hcount := UInt64.toNat_sub_of_le _ _ hle
    have hlt' := UInt64.lt_iff_toNat_lt.1 hlt
    have hiff : (span.start.toNat ≤ a.toNat ∧
        a.toNat < span.start.toNat + (span.stop - span.start).toNat) ↔ span.Contains a := by
      rw [Span.Contains, UInt64.le_iff_toNat_le, UInt64.lt_iff_toNat_lt, hcount]
      omega
    rw [Memory.byte?_fill ((Memory.writable_iff hlt).1 h)]
    simp only [hiff]

/-- It leaves the flag word alone. -/
theorem flags_zeroed : ((b.platform cpu).zeroed span m).flags = m.flags := by
  unfold Platform.zeroed
  split
  · rfl
  · rcases b.zeroBytes_cases cpu span.start (span.stop - span.start) with hzero | hzero | hzero
    · rw [hzero]
      rfl
    · rw [hzero]
      rfl
    · rw [hzero]
      rfl

end Build

/-! ### The zero fill of an image -/

namespace Image

variable (i : Image) (span : Span) (m : Machine)

theorem memory_zeroed (hle : span.start ≤ span.stop) (h : m.memory.Writable span) :
    (i.platform.zeroed span m).memory =
      m.memory.fill span.start (span.stop - span.start).toNat 0 :=
  i.build.memory_zeroed .native span m hle h

theorem byte?_zeroed (hle : span.start ≤ span.stop) (h : m.memory.Writable span) (a : UInt64) :
    (i.platform.zeroed span m).memory.byte? a =
      if span.Contains a then some 0 else m.memory.byte? a :=
  i.build.byte?_zeroed .native span m hle h a

/-- A zero fill of an image touches the memory alone. -/
theorem zeroed_eq :
    i.platform.zeroed span m = { m with memory := (i.platform.zeroed span m).memory } := by
  unfold Platform.zeroed
  split <;> rfl

end Image

end Handoff
