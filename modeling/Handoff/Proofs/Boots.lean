/-
A placed image boots: it calls its kernel once, as promised, and halts for good.

The way to the call is deterministic and has nothing left to refuse, so `Called` collects
what the machine shows when the call is made, for every kernel.  What becomes of the run
is then the kernel's own run on that machine, followed by the halt loop or by the fault
handler.  The kernel occurs in that equation once, which is what calling it once means;
that its entry shows once in the history as well follows because everything else that is
seen is a record, the masking of the stub, or part of the halt loop.
-/
import Handoff.Proofs.Approach

namespace Handoff

namespace Image

/-! ### The way to the call -/

/-- What holds of an image's zero fill, which begins on the first walk, and of its call of
the kernel, which is made on the second. -/
structure Called (i : Image) (m : Machine) (fill call : Walk Machine) : Prop where
  /-- The stub and the checks behind it lead to the fill. -/
  resumed : i.resume (i.layout.stub m) = .ok fill.progress fill.machine
  fillForward : fill.machine.flags.Forward
  /-- The fill and the check behind it lead to the call. -/
  departed : (do
    Boot.zeroFill i.platform i.layout.zeroed
    Boot.depart i.platform i.kernel.address) fill = .ok () call
  progress : call.progress =
    { stage := .transferred, stackTop := some ⟨i.layout.stubStackPointer⟩ }
  stackPointer : call.machine.stackPointer = i.layout.stubStackPointer
  aligned : 16 ∣ i.layout.stubStackPointer.toNat
  masked : call.machine.flags.contains .interruptEnable = false
  forward : call.machine.flags.Forward
  memory : ∀ a, call.machine.memory.byte? a =
    if i.layout.zeroed.Contains a then some 0 else m.memory.byte? a
  /-- The masking comes first, and only records after it. -/
  spoke : (m.note .mask).Spoke call.machine

variable {i : Image} {m : Machine} {fill call : Walk Machine}

theorem Called.comesTo (h : i.Called m fill call) : i.ComesTo m call :=
  ⟨fill, h.resumed, h.departed⟩

theorem called (hplaced : i.layout.Placed) (hmaskable : m.maskable = true)
    (hwritable : m.memory.Writable i.layout.zeroed) : ∃ fill call, i.Called m fill call := by
  obtain ⟨hmasked, hforward⟩ := i.layout.stub_flags hmaskable
  have hharmless := hplaced.harmless
  have hstub := i.layout.stub_eq m
  have hmemory : (i.layout.stub m).memory = m.memory := by rw [hstub]
  have hspoke : (m.note .mask).Spoke (i.layout.stub m) := by
    refine .silent ?_ ?_
    · rw [hstub]
      rfl
    · rw [hstub]
      rfl
  have hflags : (i.announced (i.filled (i.layout.stub m))).flags = (i.layout.stub m).flags := by
    rw [flags_announced, flags_filled]
  refine ⟨⟨⟨.stackEstablished, some ⟨i.layout.stubStackPointer⟩⟩, i.layout.stub m⟩,
    i.callSite m, ?_⟩
  constructor
  case resumed => exact i.resume_harmless hplaced.fits hforward hmasked hharmless
  case fillForward => exact hforward
  case departed => exact depart_eq hharmless.ordered hmasked _
  case progress => rfl
  case stackPointer => exact i.stackPointer_callSite m
  case aligned => exact i.layout.stubStackPointer_aligned
  case masked => rw [callSite, hflags, hmasked]
  case forward => rwa [callSite, hflags]
  case memory =>
    intro a
    rw [callSite, memory_announced, i.byte?_filled _ hharmless.ordered (hmemory ▸ hwritable),
      hmemory]
  case spoke => exact (hspoke.trans (i.spoke_filled _)).trans (i.spoke_announced _)

/-! ### A kernel that runs errands and returns -/

/-- The kernel of a placed image finds an aligned stack pointer on the boot stack. -/
theorem noteStack_eq {l : Layout} (hplaced : l.Placed) {m : Machine}
    (h : m.stackPointer = l.stubStackPointer) :
    m.noteStack l.stack = m.note (.stack true true) := by
  obtain ⟨hbottom, hsize⟩ := Layout.pushed_in_stack hplaced.settled
  have haligned : l.stubStackPointer % StackTop.alignment = 0 := by
    rw [← UInt64.toNat_inj, UInt64.toNat_mod]
    exact Nat.mod_eq_zero_of_dvd l.stubStackPointer_aligned
  simp [Machine.noteStack, h, hbottom, hsize, haligned]

theorem enterKernel_eq {m : Machine} (h : m.flags.contains .interruptEnable = false) :
    m.enterKernel = m.note (.entry false m.memory.nonzero) := by
  rw [Machine.enterKernel, Machine.interruptsEnabled, h]

/-- What becomes of a run whose kernel was called and left the machine `after`. -/
structure Halts (i : Image) (m : Machine) (call : Walk Machine) (after : Machine) : Prop where
  /-- There is no fault, and the halt loop has no end. -/
  run : ∀ wakes, i.run wakes m = (none, i.platform.haltLoop wakes (i.returned after))
  memory : ∀ wakes, (i.run wakes m).2.memory = after.memory
  /-- Whenever the loop comes to a halt, it has masked interrupts. -/
  masked : ∀ wakes,
    (i.platform.maskInterrupts (i.run wakes m).2).flags.contains .interruptEnable = false
  /-- The stub masks first; the kernel is entered once, on its stack, with interrupts
  masked; and the only other things seen are records and the halt loop. -/
  events : ∃ opening closing : List Event,
    (∀ e ∈ opening ++ closing, e.isSerial = true) ∧ ∀ wakes,
      (i.run wakes m).2.events = m.events ++ .mask :: (opening ++
        [.stack true true, .entry false call.machine.memory.nonzero] ++ closing ++
        wakes.flatMap fun _ => [.mask, .halt])

variable {checks : Bool} {layout : Layout} {address : UInt64} {errands : List Errand}

/-- The kernel notes its entry, and from there on the run only speaks. -/
theorem Called.spoke_from_entry
    (h : Called ⟨checks, layout, .ofErrands (buildOf checks) layout.stack address errands⟩ m fill call)
    (hplaced : layout.Placed) {after : Machine}
    (hcode : (Kernel.ofErrands (buildOf checks) layout.stack address errands).code call.machine =
      .ok () after) :
    ((call.machine.note (.stack true true)).note
      (.entry false call.machine.memory.nonzero)).Spoke after := by
  have hstack : call.machine.noteStack layout.stack = call.machine.note (.stack true true) :=
    noteStack_eq hplaced h.stackPointer
  have hentry : (call.machine.note (.stack true true)).enterKernel =
      (call.machine.note (.stack true true)).note (.entry false call.machine.memory.nonzero) :=
    enterKernel_eq h.masked
  rw [← hentry, ← hstack]
  exact .performAll hcode

theorem Called.halts
    (h : Called ⟨checks, layout, .ofErrands (buildOf checks) layout.stack address errands⟩ m fill call)
    (hplaced : layout.Placed) (hmaskable : m.maskable = true) {after : Machine}
    (hcode : (Kernel.ofErrands (buildOf checks) layout.stack address errands).code call.machine =
      .ok () after) :
    Halts ⟨checks, layout, .ofErrands (buildOf checks) layout.stack address errands⟩
      m call after := by
  let i : Image := ⟨checks, layout, .ofErrands (buildOf checks) layout.stack address errands⟩
  have hfaithful : i.build.Faithful .native := Or.inr rfl
  have hspoke := (h.spoke_from_entry hplaced hcode).trans (i.spoke_returned after)
  obtain ⟨opening, hopening, hcall⟩ := h.spoke.events
  obtain ⟨closing, hclosing, hreturned⟩ := hspoke.events
  have hable : (i.returned after).maskable = true := by
    rw [hspoke.maskable, ← hmaskable]
    exact h.spoke.maskable
  have hrun (wakes : List Bool) :
      i.run wakes m = (none, i.platform.haltLoop wakes (i.returned after)) := by
    rw [h.comesTo.run_eq wakes, afterCall]
    simp only [hcode]
    rfl
  constructor
  case run => exact hrun
  case memory =>
    intro wakes
    rw [hrun wakes, ← i.memory_returned after]
    exact (Platform.settled_haltLoop hfaithful wakes (.refl _)).memory
  case masked =>
    intro wakes
    rw [hrun wakes]
    exact Platform.masked_haltLoop hfaithful wakes hable
  case events =>
    refine ⟨opening, closing, ?_, ?_⟩
    · intro e he
      rcases List.mem_append.1 he with hearly | hlate
      · exact hopening e hearly
      · exact hclosing e hlate
    · intro wakes
      have hloop := Platform.events_haltLoop hfaithful wakes (i.returned after)
      rw [hrun wakes]
      refine hloop.trans ?_
      rw [hreturned]
      simp only [Machine.note] at hcall ⊢
      rw [hcall]
      simp

/-- **A placed image boots.**  It runs into no fault and calls its kernel once: masked, with
strings ascending, on the aligned stack of the stub, with all its storage zeroed and the
rest of the memory as it was.  After a kernel that returns it halts for good. -/
theorem boots (checks : Bool) {layout : Layout} (hplaced : layout.Placed) {m : Machine}
    (hmaskable : m.maskable = true) (hwritable : m.memory.Writable layout.zeroed)
    (address : UInt64) (errands : List Errand) :
    let i : Image :=
      { checks, layout, kernel := .ofErrands (buildOf checks) layout.stack address errands }
    ∃ fill call, i.Called m fill call ∧
      ∀ after, i.kernel.code call.machine = .ok () after → i.Halts m call after := by
  obtain ⟨fill, call, hcalled⟩ := called
    (i := { checks, layout, kernel := .ofErrands (buildOf checks) layout.stack address errands })
    hplaced hmaskable hwritable
  exact ⟨fill, call, hcalled, fun after hcode => hcalled.halts hplaced hmaskable hcode⟩

/-- A kernel that unmasks, writes over storage that was zeroed, and says so. -/
def careless : List Errand :=
  [.act .enableInterrupts, .act (.poke 0x1001 7 1), .log .info "kernel" (.ofText "up")]

/-- A boot of that kernel with both flags set at the hand-off. -/
theorem boots_careless :
    let m : Machine :=
      { flags := ⟨0x602⟩, memory := ⟨0x1000, #[1, 2, 3, 4, 5, 6]⟩, console := .idle false }
    let i : Image :=
      { checks := true
        layout := { zeroed := ⟨0x1001, 0x1005⟩, stack := ⟨0x2000⟩ }
        kernel := .ofErrands (buildOf true) ⟨0x2000⟩ 0x100 careless }
    ∃ fill call after, i.Called m fill call ∧ i.kernel.code call.machine = .ok () after ∧
      i.Halts m call after := by
  intro m i
  have hplaced : i.layout.Placed := ⟨by decide, by decide, by decide⟩
  have hwritable : m.memory.Writable i.layout.zeroed :=
    (Memory.writable_iff (by decide)).2 (by decide)
  have hreturns : ∀ errand ∈ careless, errand.returns = true := by decide
  obtain ⟨fill, call, hcalled, hhalts⟩ := boots true hplaced rfl hwritable 0x100 careless
  obtain ⟨after, hcode⟩ := Errand.performAll_returns (buildOf true) hreturns
    (call.machine.noteStack i.layout.stack).enterKernel
  exact ⟨fill, call, after, hcalled, hcode, hhalts after hcode⟩

end Image

end Handoff
