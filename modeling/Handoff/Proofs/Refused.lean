/-
A checked image with a harmful layout never calls its kernel.

Harm is found in two ways.  The comparison with the stack stops the image before the
hand-off is resumed; an inverted span that passes the comparison stops the zero fill when
it takes the length of the span.  Either way nothing has been written, and the kernel has
had no part in what happened, so the run ends in the fault handler with the memory as it
was, whatever the kernel is.  On a harmless layout neither of the two can fire, and the
kernel is called.
-/
import Handoff.Proofs.Approach
import Handoff.Proofs.Parked

namespace Handoff

namespace Image

/-- The image with another kernel. -/
def withKernel (i : Image) (kernel : Kernel Machine) : Image := { i with kernel }

/-- The run calls the kernel, once and on the machine `n`: whatever code is found at the
kernel's address, the run is that code's own run on `n` and what follows on it. -/
def Calls (i : Image) (m n : Machine) : Prop :=
  ∀ code wakes, (i.withKernel { i.kernel with code }).run wakes m =
    (i.withKernel { i.kernel with code }).afterCall wakes n

/-- What becomes of an image that a check of its layout has stopped. -/
structure Refused (i : Image) (m : Machine) : Prop where
  /-- The kernel has no part in the run. -/
  uncalled : ∀ kernel wakes, (i.withKernel kernel).run wakes m = i.run wakes m
  memory : ∀ wakes, (i.run wakes m).2.memory = m.memory
  /-- The fault handler comes to its halt loop with interrupts masked, and stays there. -/
  parked : ∃ fault parked, (fault = .stackInRange ∨ fault = .subtractOverflow) ∧
    parked.flags.contains .interruptEnable = false ∧
    ∀ wakes, i.run wakes m = (some fault, i.platform.haltLoop wakes parked)
  /-- Whenever the loop comes to a halt, it has masked interrupts. -/
  masked : ∀ wakes,
    (i.platform.maskInterrupts (i.run wakes m).2).flags.contains .interruptEnable = false
  /-- The stub masks, the handler masks, and all else seen is its report and its loop. -/
  events : ∃ said : List Event, (∀ e ∈ said, e.isSerial = true) ∧ ∀ wakes,
    (i.run wakes m).2.events =
      m.events ++ .mask :: .mask :: (said ++ wakes.flatMap fun _ => [.mask, .halt])

variable {i : Image} {m : Machine}

/-- An image is refused if a check stops it right behind the stub, whatever its kernel. -/
theorem refused_of_stopped (hmaskable : m.maskable = true) {fault : Fault}
    (hfault : fault = .stackInRange ∨ fault = .subtractOverflow)
    (hrun : ∀ kernel wakes, (i.withKernel kernel).run wakes m =
      (some fault, i.build.park fault wakes (i.layout.stub m))) : i.Refused m := by
  have hfaithful : i.build.Faithful .native := Or.inr rfl
  have hplain : fault.message.ending = .ok .complete := by
    rcases hfault with rfl | rfl
    · rfl
    · rfl
  have hstub := i.layout.stub_eq m
  have hable : (i.layout.stub m).maskable = true := by rw [hstub, hmaskable]
  have hself (wakes : List Bool) : i.run wakes m =
      (some fault, i.platform.haltLoop wakes (i.build.reported fault (i.layout.stub m))) := by
    rw [platform, ← i.build.park_of_plain hplain]
    exact hrun i.kernel wakes
  have hspoke := i.build.spoke_reported fault (i.layout.stub m)
  constructor
  case uncalled =>
    intro kernel wakes
    exact (hrun kernel wakes).trans (hrun i.kernel wakes).symm
  case memory =>
    intro wakes
    refine (congrArg (fun ended => ended.2.memory) (hrun i.kernel wakes)).trans ?_
    rw [i.build.memory_park hfaithful hplain, hstub]
  case parked =>
    refine ⟨fault, _, hfault, ?_, hself⟩
    rw [i.build.flags_reported, Machine.flags_mask _ hable]
    exact Flags.masked_diff _
  case masked =>
    intro wakes
    rw [hself]
    refine Platform.masked_haltLoop hfaithful wakes ?_
    rw [hspoke.maskable, Machine.maskable_mask, hable]
  case events =>
    obtain ⟨said, hsaid, hevents⟩ := hspoke.events
    refine ⟨said, hsaid, fun wakes => ?_⟩
    rw [hself]
    refine (Platform.events_haltLoop hfaithful wakes _).trans ?_
    rw [hevents, Machine.events_mask, hstub]
    simp

/-- Neither check lets a harmful layout through. -/
theorem refused_of_harmful (hchecks : i.checks = true) (hstack : i.layout.stack.Settled)
    (hmaskable : m.maskable = true) (hharmful : ¬i.layout.Harmless) : i.Refused m := by
  obtain ⟨hmasked, hforward⟩ := i.layout.stub_flags hmaskable
  have hresume {overlap : Bool}
      (hoverlaps : i.layout.stack.overlaps i.checks i.layout.zeroed = .ok overlap) :=
    i.resume_eq hstack.fits hforward hmasked hoverlaps
  rcases Layout.harmful_cases hstack.fits hharmful i.checks with hover | ⟨hover, hinverted⟩
  · refine refused_of_stopped hmaskable (Or.inl rfl) fun kernel wakes => ?_
    rw [run_of_unresumed (n := i.layout.stub m) _ wakes]
    · rfl
    · refine (hresume hover).trans ?_
      rw [hchecks, Bool.true_and, if_pos rfl]
  · refine refused_of_stopped hmaskable (Or.inr rfl) fun kernel wakes => ?_
    let fill : Walk Machine :=
      ⟨⟨.stackEstablished, some ⟨i.layout.stubStackPointer⟩⟩, i.layout.stub m⟩
    have hgo : (i.withKernel kernel).resume (i.layout.stub m) = .ok fill.progress fill.machine :=
      (hresume hover).trans (by rw [Bool.and_false, if_neg Bool.false_ne_true])
    have hfill := Boot.zeroFill_inverted i.platform fill
      ((i.build.checks_platform .native).trans hchecks) hinverted
    exact run_of_unfilled hgo hfill wakes

theorem calls_of_harmless (hstack : i.layout.stack.Settled) (hmaskable : m.maskable = true)
    (hharmless : i.layout.Harmless) : i.Calls m (i.callSite m).machine := by
  intro code wakes
  exact (comesTo_callSite (i := i.withKernel { i.kernel with code }) hstack hharmless
    hmaskable).run_eq wakes

/-- A run that the kernel has no part in does not call it. -/
theorem Refused.not_calls (h : i.Refused m) (n : Machine) : ¬i.Calls m n := by
  intro hcalls
  have hreturns := (h.uncalled { i.kernel with code := pure () } []).symm.trans (hcalls _ [])
  have hraises := (h.uncalled { i.kernel with code := throw .directionSet } []).symm.trans
    (hcalls _ [])
  have hsame := congrArg Prod.fst (hreturns.symm.trans hraises)
  cases hsame

/-- **The kernel is called exactly on a harmless layout**, by a checked image on a settled
stack.  On any other the memory stays as it was, and the run ends in the fault handler. -/
theorem calls_iff_harmless (hchecks : i.checks = true) (hstack : i.layout.stack.Settled)
    (hmaskable : m.maskable = true) :
    ((∃ n, i.Calls m n) ↔ i.layout.Harmless) ∧ (¬i.layout.Harmless → i.Refused m) := by
  have hrefused := refused_of_harmful hchecks hstack hmaskable
  refine ⟨⟨?_, ?_⟩, hrefused⟩
  · rintro ⟨n, hcalls⟩
    exact Classical.byContradiction fun hharmful => (hrefused hharmful).not_calls n hcalls
  · intro hharmless
    exact ⟨_, calls_of_harmless hstack hmaskable hharmless⟩

/-- A checked image whose stack begins at 0x2000. -/
def overStack (zeroed : Span) : Image where
  checks := true
  layout := { zeroed, stack := ⟨0x2000⟩ }
  kernel := .ofErrands (buildOf true) ⟨0x2000⟩ 0x100 []

/-- Storage up to the stack, storage that takes the first byte of it, and storage whose
bounds are the wrong way round. -/
theorem calls_iff_harmless_at_stack :
    let m : Machine :=
      { flags := ⟨0x602⟩, memory := ⟨0x1ffc, #[1, 2, 3, 4]⟩, console := .idle false }
    (∃ n, (overStack ⟨0x1ffc, 0x2000⟩).Calls m n) ∧
      (overStack ⟨0x1ffc, 0x2001⟩).Refused m ∧ (overStack ⟨0x2000, 0x1ffc⟩).Refused m := by
  intro m
  have hstack : BootStack.Settled ⟨0x2000⟩ := ⟨by decide, by decide⟩
  refine ⟨?_, ?_, ?_⟩
  · refine (calls_iff_harmless rfl hstack rfl).1.2 ⟨by decide, ?_⟩
    rintro a ⟨-, hstop⟩ ⟨hbottom, -⟩
    exact UInt64.not_lt.2 (UInt64.le_iff_toNat_le.2 hbottom) hstop
  · refine (calls_iff_harmless rfl hstack rfl).2 fun hharmless => ?_
    exact hharmless.apart 0x2000 ⟨by decide, by decide⟩ ⟨by decide, by decide⟩
  · refine (calls_iff_harmless rfl hstack rfl).2 fun hharmless => ?_
    exact absurd hharmless.ordered (by decide)

end Image

end Handoff
