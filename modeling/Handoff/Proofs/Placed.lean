/-
A layout that the linker lets through gives the hand-off nothing to refuse.

The script asserts an order: the zeroed storage is not inverted, and the boot stack
comes after it.  With the alignment that it places the stack at, and with room for the
stack below the last word, that makes a harmless layout on a settled stack.  On such a
stack everything that the entry computes is known, so once the stub is through a checked
image has one assertion left that could fail, the one on the overlap; and on a harmless
layout that one holds as well.
-/
import Handoff.LinkerScript.Kernel
import Handoff.Proofs.Overlap
import Handoff.Proofs.Processor
import Handoff.Proofs.Steps

namespace Handoff

/-! ### Layouts -/

/-- A layout that the linker lets through, with the stack aligned as the script places it
and its end still an address. -/
structure Layout.Placed (l : Layout) : Prop where
  accepted : LinkerScript.kernel.Accepts l
  aligned : 16 ∣ l.stack.bottom.toNat
  fits : l.stack.bottom.toNat + BootStack.size.toNat < UInt64.size

namespace Layout.Placed

variable {l : Layout} (h : l.Placed)
include h

theorem settled : l.stack.Settled :=
  ⟨h.aligned, h.fits⟩

/-- The stack comes after the storage. -/
theorem harmless : l.Harmless where
  ordered := h.accepted _ List.mem_cons_self
  apart := by
    have hapart : l.zeroed.stop ≤ l.stack.bottom :=
      h.accepted _ (List.mem_cons_of_mem _ List.mem_cons_self)
    rw [UInt64.le_iff_toNat_le] at hapart
    rintro a ⟨-, hstop⟩ ⟨hbottom, -⟩
    rw [UInt64.lt_iff_toNat_lt] at hstop
    omega

end Layout.Placed

/-! ### The stub -/

/-- The stub's stack pointer is aligned, whatever the layout. -/
theorem Layout.stubStackPointer_aligned (l : Layout) : 16 ∣ l.stubStackPointer.toNat := by
  rw [l.stubStackPointer_eq]
  exact StackTop.alignDown_aligned _

/-- The stub leaves strings ascending on every machine. -/
theorem Layout.stub_forward (l : Layout) (m : Machine) :
    (l.stub m).flags.Forward :=
  m.mask.flags.direction_diff

/-- The stub leaves both flags clear on a machine that can be masked. -/
theorem Layout.stub_flags (l : Layout) {m : Machine} (h : m.maskable = true) :
    (l.stub m).flags.contains .interruptEnable = false ∧ (l.stub m).flags.Forward := by
  refine ⟨?_, l.stub_forward m⟩
  have hflags : (l.stub m).flags = m.mask.flags.diff .direction := rfl
  rw [hflags, Flags.enabled_diff_direction, m.flags_mask h]
  exact Flags.masked_diff _

/-- All else that the stub does: it notes the masking, and loads the stack pointer. -/
theorem Layout.stub_eq (l : Layout) (m : Machine) :
    l.stub m =
      { m with
        flags := (l.stub m).flags
        stackPointer := l.stubStackPointer
        events := m.events ++ [.mask] } := by
  unfold stub Machine.mask
  simp only
  split <;> rfl

/-! ### The assertions of a checked image -/

namespace Image

variable (i : Image) (hfits : i.layout.stack.Fits) {m : Machine}
  (hforward : m.flags.Forward)
include hfits hforward

/-- With strings ascending, two assertions are left that can stop an image: the one on the
stack and the one on the interrupts. -/
theorem resume_of_overlaps {overlap : Bool}
    (hoverlaps : i.layout.stack.overlaps i.checks i.layout.zeroed = .ok overlap) :
    i.resume m =
      if i.checks && overlap then .error .stackInRange m
      else if i.checks && m.flags.contains .interruptEnable then .error .unmaskedOnEntry m
      else .ok { stage := .stackEstablished, stackTop := some ⟨i.layout.stubStackPointer⟩ } m := by
  have hread : i.platform.interruptsEnabled m = m.flags.contains .interruptEnable := by
    rw [platform, Build.Faithful.interruptsEnabled_eq (Or.inr rfl), Machine.interruptsEnabled]
  have hchecks : i.platform.checks = i.checks := i.build.checks_platform .native
  have hnative : (m.nativeFlags i.build.target).contains .direction = false :=
    m.flags.direction_truncate.trans hforward
  have hget : (get : EStateM Fault Machine Machine) m = .ok m m := rfl
  have hlast : (do
      let top ← MonadExcept.ofExcept (Except.ok ⟨i.layout.stubStackPointer⟩)
      MonadExcept.ofExcept (Progress.resume i.platform top (← get)) :
        EStateM Fault Machine Progress) m =
      if i.checks && m.flags.contains .interruptEnable then .error .unmaskedOnEntry m
      else .ok { stage := .stackEstablished, stackTop := some ⟨i.layout.stubStackPointer⟩ } m := by
    refine (bind_of_ok rfl).trans ((bind_of_ok hget).trans ?_)
    rw [Progress.resume, hread, hchecks]
    split <;> rfl
  unfold resume
  rw [Layout.top_eq hfits, hoverlaps]
  cases hchecked : i.checks with
  | false =>
    rw [hchecked] at hlast
    exact hlast
  | true =>
    rw [hchecked] at hlast
    refine (bind_of_ok hget).trans ?_
    rw [hnative]
    cases overlap with
    | false => exact hlast
    | true => rfl

variable (hmasked : m.flags.contains .interruptEnable = false)
include hmasked

/-- With both flags clear only the comparison with the stack can stop an image. -/
theorem resume_eq {overlap : Bool}
    (hoverlaps : i.layout.stack.overlaps i.checks i.layout.zeroed = .ok overlap) :
    i.resume m =
      if i.checks && overlap then .error .stackInRange m
      else .ok { stage := .stackEstablished, stackTop := some ⟨i.layout.stubStackPointer⟩ } m := by
  have hopen : ¬(i.checks && m.flags.contains .interruptEnable) = true := by
    rw [hmasked, Bool.and_false]
    exact Bool.false_ne_true
  rw [i.resume_of_overlaps hfits hforward hoverlaps, if_neg hopen]

/-- An image with a harmless layout is resumed, whether it checks or not. -/
theorem resume_harmless (hharmless : i.layout.Harmless) :
    i.resume m =
      .ok { stage := .stackEstablished, stackTop := some ⟨i.layout.stubStackPointer⟩ } m := by
  rw [i.resume_eq hfits hforward hmasked (hharmless.overlaps_eq hfits i.checks),
    Bool.and_false, if_neg Bool.false_ne_true]

end Image

end Handoff
