/-
Nothing that the loader leaves unspecified reaches the kernel.

A loader promises neither flag and no stack, and says nothing of the bytes that the hand-off
is going to zero.  Two machines that it may hand over for one boot differ in just these, and
on a layout that the linker lets through the difference is gone when the kernel is called:
the stub clears both flags and loads the stack pointer, and the zero fill writes over every
one of the bytes.  Nothing looks at them before.  So not only is the kernel called on one
and the same machine; from the loader's jump on the two runs are seen as one.
-/
import Handoff.Proofs.Approach

namespace Handoff

/-- Two machines at the loader's jump that differ in what a loader leaves open: the two
known flags, the stack pointer, and the bytes of the storage to zero. -/
structure Machine.HandedAlike (zeroed : Span) (m n : Machine) : Prop where
  flags : m.flags.diff .all = n.flags.diff .all
  base : m.memory.base = n.memory.base
  size : m.memory.bytes.size = n.memory.bytes.size
  bytes : ∀ i : Nat, ¬(zeroed.start.toNat ≤ m.memory.base.toNat + i ∧
    m.memory.base.toNat + i < zeroed.stop.toNat) → m.memory.bytes[i]? = n.memory.bytes[i]?
  console : m.console = n.console
  maskable : m.maskable = n.maskable
  events : m.events = n.events

namespace Machine.HandedAlike

variable {l : Layout} {m n : Machine} (h : m.HandedAlike l.zeroed n)
include h

/-- The stub clears both flags. -/
theorem flags_stub (hmaskable : m.maskable = true) : (l.stub m).flags = (l.stub n).flags := by
  have hcleared (k : Machine) (hk : k.maskable = true) : (l.stub k).flags = k.flags.diff .all := by
    rw [Layout.stub, mask_eq, hk]
    exact k.flags.diff_known
  rw [hcleared m hmaskable, hcleared n (h.maskable ▸ hmaskable), h.flags]

theorem writable (hwritable : m.memory.Writable l.zeroed) : n.memory.Writable l.zeroed := by
  intro a ha
  rw [Memory.byte?_isSome, ← h.base, ← h.size]
  exact Memory.byte?_isSome.1 (hwritable a ha)

/-- One fill of the storage writes over all that it held. -/
theorem fill_eq (hordered : l.zeroed.start ≤ l.zeroed.stop) (hwritable : m.memory.Writable l.zeroed) :
    m.memory.fill l.zeroed.start (l.zeroed.stop - l.zeroed.start).toNat 0 =
      n.memory.fill l.zeroed.start (l.zeroed.stop - l.zeroed.start).toNat 0 := by
  by_cases hempty : l.zeroed.start = l.zeroed.stop
  · -- no byte is excepted
    have hsame : m.memory = n.memory :=
      Memory.ext_getElem? h.base fun i => h.bytes i (by rw [hempty]; omega)
    rw [hsame]
  · have hlt : l.zeroed.start < l.zeroed.stop := UInt64.lt_of_le_of_ne hordered hempty
    have hlt' := UInt64.lt_iff_toNat_lt.1 hlt
    have hcount := UInt64.toNat_sub_of_le _ _ hordered
    refine Memory.fill_congr ((Memory.writable_iff hlt).1 hwritable) h.base h.size ?_ 0
    intro i hout
    exact h.bytes i (by omega)

/-- The zero fill after the stub leaves one machine. -/
theorem zeroed_stub (i : Image) (hmaskable : m.maskable = true)
    (hordered : l.zeroed.start ≤ l.zeroed.stop) (hwritable : m.memory.Writable l.zeroed) :
    i.platform.zeroed l.zeroed (l.stub m) = i.platform.zeroed l.zeroed (l.stub n) := by
  have hstub := l.stub_eq m
  have hstub' := l.stub_eq n
  have hmemory : (l.stub m).memory = m.memory := by rw [hstub]
  have hmemory' : (l.stub n).memory = n.memory := by rw [hstub']
  have hfill : (i.platform.zeroed l.zeroed (l.stub m)).memory =
      (i.platform.zeroed l.zeroed (l.stub n)).memory := by
    rw [i.memory_zeroed _ _ hordered (hmemory ▸ hwritable),
      i.memory_zeroed _ _ hordered (hmemory' ▸ h.writable hwritable), hmemory, hmemory']
    exact h.fill_eq hordered hwritable
  rw [i.zeroed_eq, i.zeroed_eq _ (l.stub n), hfill, hstub, hstub', h.flags_stub hmaskable,
    h.console, h.maskable, h.events]

end Machine.HandedAlike

namespace Image

variable {i : Image} {m n : Machine}

/-- They come to the call of the kernel as one walk. -/
theorem callSite_eq_of_handedAlike (h : m.HandedAlike i.layout.zeroed n)
    (hmaskable : m.maskable = true) (hordered : i.layout.zeroed.start ≤ i.layout.zeroed.stop)
    (hwritable : m.memory.Writable i.layout.zeroed) : i.callSite m = i.callSite n := by
  rw [callSite, callSite, filled, filled, h.zeroed_stub i hmaskable hordered hwritable]

/-- **The two runs are one.**  Both call the kernel, on one and the same machine, and
whenever the processor is woken they end the same way and on the same machine, and the same
was seen to happen. -/
theorem run_eq_of_handedAlike (hplaced : i.layout.Placed) (h : m.HandedAlike i.layout.zeroed n)
    (hmaskable : m.maskable = true) (hwritable : m.memory.Writable i.layout.zeroed) :
    (∃ call, i.ComesTo m call ∧ i.ComesTo n call) ∧
      ∀ wakes, i.run wakes m = i.run wakes n := by
  have hsame := callSite_eq_of_handedAlike h hmaskable hplaced.harmless.ordered hwritable
  have hcomes : i.ComesTo m (i.callSite m) :=
    comesTo_callSite hplaced.settled hplaced.harmless hmaskable
  have hcomes' : i.ComesTo n (i.callSite m) := by
    rw [hsame]
    exact comesTo_callSite hplaced.settled hplaced.harmless (h.maskable ▸ hmaskable)
  refine ⟨⟨i.callSite m, hcomes, hcomes'⟩, fun wakes => ?_⟩
  rw [hcomes.run_eq, hcomes'.run_eq]

/-- One machine with both flags set and bytes left over, and one with neither flag and other
bytes, for a kernel that unmasks, writes over a zeroed byte and returns. -/
theorem run_eq_of_handedAlike_untidy :
    let m : Machine :=
      { flags := ⟨0x602⟩, memory := ⟨0x1000, #[1, 2, 3, 4, 5, 6]⟩, console := .idle false }
    let n : Machine :=
      { flags := ⟨0x2⟩, memory := ⟨0x1000, #[1, 0, 0, 0xFF, 0, 6]⟩, console := .idle false }
    let i : Image :=
      { checks := true
        layout := { zeroed := ⟨0x1001, 0x1005⟩, stack := ⟨0x2000⟩ }
        kernel := .ofActions 0x100 [.enableInterrupts, .poke 0x1001 7 1] }
    i.run [true, false] m = i.run [true, false] n := by
  intro m n i
  have hplaced : i.layout.Placed := ⟨by decide, by decide, by decide⟩
  have halike : m.HandedAlike i.layout.zeroed n := by
    refine ⟨by decide, rfl, rfl, fun i hout => ?_, rfl, rfl, rfl⟩
    by_cases hi : i < 6
    · have hheld : ∀ i < 6, ¬(0x1001 ≤ 0x1000 + i ∧ 0x1000 + i < 0x1005) →
          m.memory.bytes[i]? = n.memory.bytes[i]? := by decide
      exact hheld i hi hout
    · rw [Array.getElem?_eq_none (Nat.le_of_not_lt hi), Array.getElem?_eq_none (Nat.le_of_not_lt hi)]
  have hwritable : m.memory.Writable i.layout.zeroed :=
    (Memory.writable_iff (by decide)).2 (by decide)
  exact (run_eq_of_handedAlike hplaced halike rfl hwritable).2 [true, false]

end Image

end Handoff
