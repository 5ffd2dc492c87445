/-
A run of an image, cut at the call of its kernel.

Up to the call an image does what its layout and its build decide, and its kernel has no
part in it; from the call on the run is the kernel's own run, followed by the halt loop or
by the fault handler.  `ComesTo` names the walk on which the call is made, and
`ComesTo.run_eq` is the cut.  An image that is stopped on its way is with the fault handler
at once, so what the kernel is makes no difference to its run at all.
-/
import Handoff.Proofs.Errands
import Handoff.Proofs.Placed
import Handoff.Proofs.Zeroing

namespace Handoff

namespace Image

/-! ### The machine on the way -/

/-- The machine after the zero fill and its record. -/
def filled (i : Image) (m : Machine) : Machine :=
  i.platform.report .debug Boot.target
    (Boot.zeroFillText i.layout.zeroed.start (i.layout.zeroed.stop - i.layout.zeroed.start))
    (i.platform.zeroed i.layout.zeroed m)

/-- The machine after the record before the call. -/
def announced (i : Image) (m : Machine) : Machine :=
  i.platform.report .info Boot.target (Boot.departText i.kernel.address) m

/-- The machine after the record that the kernel returned. -/
def returned (i : Image) (m : Machine) : Machine :=
  i.platform.report .error Boot.target Boot.haltText m

section Frame

variable (i : Image) (m : Machine)

theorem report_eq : i.platform.report = i.build.logText :=
  i.build.report_platform .native

theorem flags_filled : (i.filled m).flags = m.flags := by
  rw [filled, report_eq, Build.flags_logText, zeroed_eq]

theorem stackPointer_filled : (i.filled m).stackPointer = m.stackPointer := by
  rw [filled, report_eq, Build.stackPointer_logText, zeroed_eq]

theorem byte?_filled (hordered : i.layout.zeroed.start ≤ i.layout.zeroed.stop)
    (hwritable : m.memory.Writable i.layout.zeroed) (a : UInt64) :
    (i.filled m).memory.byte? a = if i.layout.zeroed.Contains a then some 0 else m.memory.byte? a := by
  rw [filled, report_eq, Build.memory_logText]
  exact i.byte?_zeroed i.layout.zeroed m hordered hwritable a

/-- The fill itself is not seen, only its record. -/
theorem spoke_filled : m.Spoke (i.filled m) := by
  have hsilent : m.Spoke (i.platform.zeroed i.layout.zeroed m) := by
    refine .silent ?_ ?_
    · rw [zeroed_eq]
    · rw [zeroed_eq]
  rw [filled, report_eq]
  exact hsilent.trans (.logText ..)

theorem flags_announced : (i.announced m).flags = m.flags := by
  rw [announced, report_eq, Build.flags_logText]

theorem stackPointer_announced : (i.announced m).stackPointer = m.stackPointer := by
  rw [announced, report_eq, Build.stackPointer_logText]

theorem memory_announced : (i.announced m).memory = m.memory := by
  rw [announced, report_eq, Build.memory_logText]

theorem spoke_announced : m.Spoke (i.announced m) := by
  rw [announced, report_eq]
  exact .logText ..

theorem memory_returned : (i.returned m).memory = m.memory := by
  rw [returned, report_eq, Build.memory_logText]

theorem spoke_returned : m.Spoke (i.returned m) := by
  rw [returned, report_eq]
  exact .logText ..

end Frame

/-! ### The cut -/

/-- Steps 3 and 4 up to the call itself. -/
def depart (i : Image) : Boot Machine Unit := do
  Boot.zeroFill i.platform i.layout.zeroed
  Boot.depart i.platform i.kernel.address

/-- The run comes to its call of the kernel, and makes it on the walk `call`. -/
def ComesTo (i : Image) (m : Machine) (call : Walk Machine) : Prop :=
  ∃ fill : Walk Machine, i.resume (i.layout.stub m) = .ok fill.progress fill.machine ∧
    i.depart fill = .ok () call

/-- What becomes of a run that calls its kernel on the machine `n`. -/
def afterCall (i : Image) (wakes : List Bool) (n : Machine) : Option Fault × Machine :=
  match i.kernel.code n with
  | .ok _ after => (none, i.platform.haltLoop wakes (i.returned after))
  | .error fault after => (some fault, i.build.park fault wakes after)

variable {i : Image} {m n : Machine} {fill call : Walk Machine}

/-- A walk that departs well is at its last stage but one. -/
theorem stage_of_depart (h : i.depart fill = .ok () call) : call.progress.stage = .transferred := by
  obtain ⟨_, filled, -, hdepart⟩ := bind_ok_iff.1 h
  rcases Boot.depart_cases i.platform filled i.kernel.address with ⟨fault, hstop⟩ | ⟨-, hgo⟩
  · rw [hstop] at hdepart
    cases hdepart
  · rw [hgo] at hdepart
    cases hdepart
    rfl

/-- Steps 3 to 5 are the way to the call and what comes after it. -/
theorem run_of_depart (h : i.depart fill = .ok () call) (wakes : List Bool) :
    (match Boot.run i.platform i.layout.zeroed i.kernel wakes fill with
      | .ok _ w => (none, w.machine)
      | .error fault w => (some fault, i.build.park fault wakes w.machine)) =
      i.afterCall wakes call.machine := by
  obtain ⟨_, filled, hfill, hdepart⟩ := bind_ok_iff.1 h
  have htransfer : Boot.transfer i.platform i.kernel filled = Boot.call i.kernel call :=
    bind_of_ok hdepart
  rw [Boot.run_of_filled hfill, afterCall]
  cases hcode : i.kernel.code call.machine with
  | ok _ after =>
    have hcall : Boot.transfer i.platform i.kernel filled =
        .ok () { call with machine := after } := htransfer.trans (Boot.call_of_ok hcode)
    have hdue := stage_of_depart h
    have hhalt := Boot.halt_of_due i.platform (w := { call with machine := after })
      (Or.inl hdue) wakes
    rw [bind_of_ok hcall, hhalt]
    rfl
  | error fault after =>
    have hcall : Boot.transfer i.platform i.kernel filled =
        .error fault { call with machine := after } := htransfer.trans (Boot.call_of_error hcode)
    rw [bind_of_error hcall]

/-- **The run is the kernel's own run** on the machine of the call, and what follows on it. -/
theorem ComesTo.run_eq (h : i.ComesTo m call) (wakes : List Bool) :
    i.run wakes m = i.afterCall wakes call.machine := by
  obtain ⟨fill, hresumed, hdeparted⟩ := h
  have hstub : i.afterStub wakes (i.layout.stub m) = i.proceed wakes fill.progress fill.machine :=
    bind_of_ok hresumed
  rw [← run_of_depart hdeparted wakes]
  unfold run
  rw [hstub, proceed]
  cases Boot.run i.platform i.layout.zeroed i.kernel wakes fill <;> rfl

/-! ### Stopped on the way -/

theorem run_of_unresumed {fault : Fault} (h : i.resume (i.layout.stub m) = .error fault n)
    (wakes : List Bool) : i.run wakes m = (some fault, i.build.park fault wakes n) := by
  have hstub : i.afterStub wakes (i.layout.stub m) = .error fault n := bind_of_error h
  unfold run
  rw [hstub]

theorem run_of_unfilled {fault : Fault} {w : Walk Machine}
    (h : i.resume (i.layout.stub m) = .ok fill.progress fill.machine)
    (hfill : Boot.zeroFill i.platform i.layout.zeroed fill = .error fault w) (wakes : List Bool) :
    i.run wakes m = (some fault, i.build.park fault wakes w.machine) := by
  have hrun := Boot.run_of_unfilled hfill i.kernel wakes
  have hstub : i.afterStub wakes (i.layout.stub m) = .error fault w.machine := by
    refine (bind_of_ok h).trans ?_
    rw [proceed, hrun]
  unfold run
  rw [hstub]

/-! ### The way of a harmless layout -/

/-- The zero fill of bounds in order ends well. -/
theorem zeroFill_eq (hordered : i.layout.zeroed.start ≤ i.layout.zeroed.stop)
    (top : Option StackTop) :
    Boot.zeroFill i.platform i.layout.zeroed ⟨⟨.stackEstablished, top⟩, m⟩ =
      .ok () ⟨⟨.zeroFillComplete, top⟩, i.filled m⟩ := by
  rw [Boot.zeroFill_eq _ _ (Or.inr hordered), bind_of_ok (Boot.advance_of_next rfl)]
  rfl

/-- With interrupts masked nothing stands between the fill and the call. -/
theorem depart_eq (hordered : i.layout.zeroed.start ≤ i.layout.zeroed.stop)
    (hmasked : m.flags.contains .interruptEnable = false) (top : Option StackTop) :
    i.depart ⟨⟨.stackEstablished, top⟩, m⟩ =
      .ok () ⟨⟨.transferred, top⟩, i.announced (i.filled m)⟩ := by
  have hread : i.platform.interruptsEnabled (i.filled m) = false := by
    rw [platform, Build.Faithful.interruptsEnabled_eq (Or.inr rfl), Machine.interruptsEnabled,
      flags_filled]
    exact hmasked
  refine (bind_of_ok (zeroFill_eq hordered top)).trans ?_
  rw [Boot.depart_eq, hread, Bool.and_false, if_neg Bool.false_ne_true,
    bind_of_ok (Boot.advance_of_next rfl)]
  rfl

/-- The walk on which an image with a harmless layout calls its kernel. -/
def callSite (i : Image) (m : Machine) : Walk Machine where
  progress := { stage := .transferred, stackTop := some ⟨i.layout.stubStackPointer⟩ }
  machine := i.announced (i.filled (i.layout.stub m))

theorem stackPointer_callSite (i : Image) (m : Machine) :
    (i.callSite m).machine.stackPointer = i.layout.stubStackPointer := by
  rw [callSite, stackPointer_announced, stackPointer_filled]
  rfl

/-- **An image with a harmless layout comes to its call.** -/
theorem comesTo_callSite (hstack : i.layout.stack.Settled) (hharmless : i.layout.Harmless)
    (hmaskable : m.maskable = true) : i.ComesTo m (i.callSite m) := by
  obtain ⟨hmasked, hforward⟩ := i.layout.stub_flags hmaskable
  exact ⟨⟨⟨.stackEstablished, some ⟨i.layout.stubStackPointer⟩⟩, i.layout.stub m⟩,
    i.resume_harmless hstack.fits hforward hmasked hharmless, depart_eq hharmless.ordered hmasked _⟩

end Image

end Handoff
