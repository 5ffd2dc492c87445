/-
The stub and the library take the same first two steps.

Masking and taking the stack exist twice: as the stub that an image begins with, and as the
first two steps of the hand-off.  Walking the whole hand-off from the loader's jump must
therefore come out as the run of the image does, once the direction flag is clear, which no
step of the hand-off sees to.  There is one difference that cannot go away.  The stub loads
the stack pointer, and the hand-off only notes it, so the walk goes on with the stack
pointer that it began with.  `onStack` moves a machine to another stack, and everything
between the loader's jump and the end of the halt loop commutes with it; what is left is
the kernel, which either finds the stack of the stub or must not look.

Not looking is kept where operations are put together.  So a kernel may act on the machine,
write records and fail as it likes; what it must not do is note where its stack is.
-/
import Handoff.Proofs.Approach
import Handoff.Proofs.Parked

namespace Handoff

/-! ### Machines on another stack -/

/-- The machine with another stack pointer. -/
def Machine.onStack (sp : UInt64) (m : Machine) : Machine := { m with stackPointer := sp }

/-- The walk on such a machine. -/
def Walk.onStack (sp : UInt64) (w : Walk Machine) : Walk Machine :=
  { w with machine := w.machine.onStack sp }

/-- An operation that ends the same on a machine with another stack pointer. -/
def Machine.endOnStack {α : Type} (sp : UInt64) :
    EStateM.Result Fault Machine α → EStateM.Result Fault Machine α
  | .ok a n => .ok a (n.onStack sp)
  | .error fault n => .error fault (n.onStack sp)

/-- The operation neither reads the stack pointer nor moves it. -/
def Machine.Blind {α : Type} (x : EStateM Fault Machine α) : Prop :=
  ∀ sp m, x (m.onStack sp) = Machine.endOnStack sp (x m)

/-- The kernel neither reads the stack pointer nor moves it. -/
def Kernel.Blind (k : Kernel Machine) : Prop := Machine.Blind k.code

namespace Machine

variable (sp : UInt64) (m : Machine)

theorem mask_onStack : (m.onStack sp).mask = m.mask.onStack sp := by
  rw [mask_eq, mask_eq]
  rfl

theorem halt_onStack (wake : Bool) : (m.onStack sp).halt wake = (m.halt wake).onStack sp := by
  cases wake <;> rfl

/-- It does not matter which of the two flags is cleared first. -/
theorem mask_clearDirection : m.clearDirection.mask = m.mask.clearDirection := by
  rw [mask_eq, mask_eq]
  simp only [clearDirection, m.flags.diff_right_comm .direction]
  split <;> rfl

end Machine

namespace Build

variable (b : Build) (sp : UInt64)

theorem log_onStack (level : Level) (target : String) (msg : Message) (m : Machine) :
    b.log level target msg (m.onStack sp) = Machine.endOnStack sp (b.log level target msg m) := by
  have hdrops : b.drops level (m.onStack sp) = b.drops level m := rfl
  rw [log_eq, log_eq, hdrops]
  split
  · rfl
  · cases msg.ending <;> rfl

theorem logText_onStack (level : Level) (target text : String) (m : Machine) :
    b.logText level target text (m.onStack sp) = (b.logText level target text m).onStack sp := by
  unfold logText
  rw [log_onStack]
  cases b.log level target (.ofText text) m <;> rfl

end Build

/-! ### Kernels that do not look -/

namespace Machine

variable {α β : Type}

theorem blind_pure (a : α) : Blind (pure a) := fun _ _ => rfl

theorem blind_throw (fault : Fault) : Blind (throw fault : EStateM Fault Machine α) :=
  fun _ _ => rfl

theorem blind_modify {f : Machine → Machine}
    (h : ∀ sp m, f (m.onStack sp) = (f m).onStack sp) : Blind (modify f) :=
  fun sp m => congrArg (EStateM.Result.ok ()) (h sp m)

theorem blind_bind {x : EStateM Fault Machine α} {g : α → EStateM Fault Machine β}
    (hx : Blind x) (hg : ∀ a, Blind (g a)) : Blind (x >>= g) := by
  intro sp m
  have hfirst := hx sp m
  cases hend : x m with
  | ok a n =>
    rw [hend] at hfirst
    rw [bind_of_ok hfirst, bind_of_ok hend, hg a sp n]
  | error fault n =>
    rw [hend] at hfirst
    rw [bind_of_error hfirst, bind_of_error hend]
    rfl

theorem act_onStack (sp : UInt64) (m : Machine) (action : Action) :
    (m.onStack sp).act action = (m.act action).onStack sp := by
  cases action <;> rfl

end Machine

namespace Errand

variable (b : Build)

/-- No errand looks at the stack, whether it acts, writes a record or raises a fault. -/
theorem blind_perform (errand : Errand) : Machine.Blind (errand.perform b) := by
  cases errand with
  | act action =>
    refine Machine.blind_modify fun sp m => ?_
    rw [Machine.act_onStack]
    rfl
  | log level target message => exact fun sp m => b.log_onStack sp level target message m
  | raise location cause => exact Machine.blind_throw _

theorem blind_performAll (errands : List Errand) : Machine.Blind (performAll b errands) := by
  induction errands with
  | nil => exact Machine.blind_pure ()
  | cons errand errands ih => exact Machine.blind_bind (errand.blind_perform b) fun _ => ih

end Errand

namespace Kernel

/-- The kernel that does some errands and returns, with no note of its stack. -/
def doing (b : Build) (address : UInt64) (errands : List Errand) : Kernel Machine where
  address := address
  code := do
    modify Machine.enterKernel
    Errand.performAll b errands

/-- A kernel that only does errands does not look, however they end. -/
theorem blind_doing (b : Build) (address : UInt64) (errands : List Errand) :
    (doing b address errands).Blind :=
  Machine.blind_bind (Machine.blind_modify fun _ _ => rfl) fun _ =>
    Errand.blind_performAll b errands

/-- Nor does one that only does actions. -/
theorem blind_ofActions (address : UInt64) (actions : List Action) :
    (ofActions address actions).Blind := by
  refine Machine.blind_modify fun sp m => ?_
  have hacts (n : Machine) :
      actions.foldl Machine.act (n.onStack sp) = (actions.foldl Machine.act n).onStack sp := by
    induction actions generalizing n with
    | nil => rfl
    | cons action actions ih => rw [List.foldl_cons, List.foldl_cons, Machine.act_onStack, ih]
  exact hacts m.enterKernel

end Kernel

/-! ### Both endings on another stack -/

namespace Build

variable {b : Build} (sp : UInt64) {cpu : Processor}

theorem haltLoop_onStack (hcpu : b.Faithful cpu) (wakes : List Bool) (m : Machine) :
    (b.platform cpu).haltLoop wakes (m.onStack sp) =
      ((b.platform cpu).haltLoop wakes m).onStack sp := by
  unfold Platform.haltLoop
  rw [hcpu.maskInterrupts_eq, hcpu.halt_eq]
  induction wakes generalizing m with
  | nil => rfl
  | cons wake wakes ih =>
    rw [List.foldl_cons, List.foldl_cons, m.mask_onStack, Machine.halt_onStack, ih]

/-- The handler does the same for one report after another. -/
theorem park_onStack (hcpu : b.Faithful .native) (fault : Fault) (wakes : List Bool)
    (m : Machine) : b.park fault wakes (m.onStack sp) = (b.park fault wakes m).onStack sp := by
  fun_induction b.park fault wakes m with
  | case1 fault m _ n h =>
    rw [park_eq, m.mask_onStack, log_onStack, h]
    exact haltLoop_onStack sp hcpu wakes n
  | case2 fault m nested n h _ ih =>
    rw [park_eq, m.mask_onStack, log_onStack, h]
    exact ih

end Build

/-! ### Images on another stack -/

namespace Image

variable (i : Image) (sp : UInt64) (m : Machine)

theorem filled_onStack : i.filled (m.onStack sp) = (i.filled m).onStack sp := by
  have hzeroed : i.platform.zeroed i.layout.zeroed (m.onStack sp) =
      (i.platform.zeroed i.layout.zeroed m).onStack sp := by
    unfold Platform.zeroed
    split <;> rfl
  rw [filled, report_eq, hzeroed, Build.logText_onStack]
  rfl

theorem announced_onStack : i.announced (m.onStack sp) = (i.announced m).onStack sp := by
  rw [announced, report_eq, Build.logText_onStack]
  rfl

theorem returned_onStack : i.returned (m.onStack sp) = (i.returned m).onStack sp := by
  rw [returned, report_eq, Build.logText_onStack]
  rfl

variable {i} in
/-- From the call on a kernel that does not look makes the only difference there could be. -/
theorem afterCall_onStack (hblind : i.kernel.Blind) (wakes : List Bool) :
    i.afterCall wakes (m.onStack sp) =
      ((i.afterCall wakes m).1, (i.afterCall wakes m).2.onStack sp) := by
  have hfaithful : i.build.Faithful .native := Or.inr rfl
  rw [afterCall, afterCall, hblind sp m]
  cases i.kernel.code m with
  | ok _ after =>
    have hloop : i.platform.haltLoop wakes (i.returned (after.onStack sp)) =
        (i.platform.haltLoop wakes (i.returned after)).onStack sp := by
      rw [returned_onStack]
      exact Build.haltLoop_onStack sp hfaithful wakes _
    exact congrArg (Prod.mk none) hloop
  | error fault after =>
    exact congrArg (Prod.mk (some fault)) (Build.park_onStack sp hfaithful fault wakes after)

/-! ### The walk from the loader's jump -/

/-- The hand-off walked from the loader's jump, with the fault handler behind it. -/
def runWalk (i : Image) (wakes : List Bool) (m : Machine) : Option Fault × Machine :=
  match i.walk wakes { progress := .start, machine := m } with
  | .ok _ w => (none, w.machine)
  | .error fault w => (some fault, i.build.park fault wakes w.machine)

/-- Steps 1 and 2. -/
def mount (i : Image) : Boot Machine Unit := do
  Boot.maskInterrupts i.platform
  let top ← MonadExcept.ofExcept (i.layout.stack.top i.checks)
  Boot.establishStack i.platform top

/-- The walk comes to its call of the kernel, and makes it on the walk `call`. -/
def WalksTo (i : Image) (m : Machine) (call : Walk Machine) : Prop :=
  (do i.mount; i.depart) { progress := .start, machine := m } = .ok () call

variable {i : Image} {m}

/-- The first two steps leave what the stub leaves, but for the stack pointer. -/
theorem mount_eq (hstack : i.layout.stack.Settled) :
    i.mount { progress := .start, machine := m.clearDirection.onStack sp } =
      .ok () { progress := ⟨.stackEstablished, some ⟨i.layout.stubStackPointer⟩⟩
               machine := (i.layout.stub m).onStack sp } := by
  have hmask : (m.clearDirection.onStack sp).mask = (i.layout.stub m).onStack sp := by
    rw [Machine.mask_onStack, Machine.mask_clearDirection]
    simp only [Machine.onStack, Layout.stub]
  unfold mount
  rw [Layout.top_eq hstack.fits]
  have hfirst : Boot.maskInterrupts i.platform ⟨.start, m.clearDirection.onStack sp⟩ =
      .ok () ⟨⟨.interruptsMasked, none⟩, (i.layout.stub m).onStack sp⟩ := by
    rw [Boot.maskInterrupts_eq, ← hmask]
    exact Boot.advance_of_next rfl
  refine (bind_of_ok hfirst).trans ?_
  exact (Boot.establishStack_eq _ _ _).trans (Boot.advance_of_next rfl)

theorem walksTo_callSite (hplaced : i.layout.Placed) (hmaskable : m.maskable = true) :
    i.WalksTo (m.clearDirection.onStack sp) ((i.callSite m).onStack sp) := by
  have hmasked : ((i.layout.stub m).onStack sp).flags.contains .interruptEnable = false :=
    (i.layout.stub_flags hmaskable).1
  refine (bind_of_ok (mount_eq sp hplaced.settled)).trans ?_
  rw [depart_eq hplaced.harmless.ordered hmasked, filled_onStack, announced_onStack]
  rfl

/-- Cut at its call, the walk goes on as a run does. -/
theorem runWalk_eq (hplaced : i.layout.Placed) (hmaskable : m.maskable = true)
    (wakes : List Bool) :
    i.runWalk wakes (m.clearDirection.onStack sp) =
      i.afterCall wakes ((i.callSite m).machine.onStack sp) := by
  have hmasked : ((i.layout.stub m).onStack sp).flags.contains .interruptEnable = false :=
    (i.layout.stub_flags hmaskable).1
  have hdepart := depart_eq (i := i) hplaced.harmless.ordered hmasked
    (some ⟨i.layout.stubStackPointer⟩)
  rw [filled_onStack, announced_onStack] at hdepart
  have hwalk : i.walk wakes =
      (i.mount >>= fun _ => Boot.run i.platform i.layout.zeroed i.kernel wakes) := by
    simp only [walk, mount, bind_assoc]
  rw [runWalk, hwalk, bind_of_ok (mount_eq sp hplaced.settled)]
  exact run_of_depart hdepart wakes

/-- **A run and a walk cannot be told apart.**  They come to the call of the kernel with
the same progress and on the same machine, but for the stack pointer, and from there on
they are the same: for every kernel if the walk goes on on the stack of the stub, and on
any stack for a kernel that does not look. -/
theorem run_eq_runWalk (i : Image) (hplaced : i.layout.Placed) {m : Machine}
    (hmaskable : m.maskable = true) :
    (∃ call, i.ComesTo m call ∧ ∀ sp,
      i.WalksTo (m.clearDirection.onStack sp) (call.onStack sp)) ∧
    (∀ wakes, i.runWalk wakes (m.clearDirection.onStack i.layout.stubStackPointer) =
      i.run wakes m) ∧
    (i.kernel.Blind → ∀ sp wakes, i.runWalk wakes (m.clearDirection.onStack sp) =
      ((i.run wakes m).1, (i.run wakes m).2.onStack sp)) := by
  have hcomes := comesTo_callSite (i := i) hplaced.settled hplaced.harmless hmaskable
  refine ⟨⟨i.callSite m, hcomes, fun sp => walksTo_callSite sp hplaced hmaskable⟩, ?_, ?_⟩
  · intro wakes
    have hsame : (i.callSite m).machine.onStack i.layout.stubStackPointer =
        (i.callSite m).machine := by
      rw [Machine.onStack, ← i.stackPointer_callSite m]
    rw [runWalk_eq _ hplaced hmaskable, hcomes.run_eq, hsame]
  · intro hblind sp wakes
    rw [runWalk_eq sp hplaced hmaskable, hcomes.run_eq, afterCall_onStack _ _ hblind]

/-- A kernel that unmasks, turns strings round and writes over storage that was zeroed, and one
that unmasks, writes a record and fails, walked to on a stack of their own. -/
theorem run_eq_runWalk_elsewhere :
    let m : Machine :=
      { flags := ⟨0x602⟩, memory := ⟨0x1000, #[1, 2, 3, 4, 5, 6]⟩, console := .idle false }
    let i : Image :=
      { checks := true
        layout := { zeroed := ⟨0x1001, 0x1005⟩, stack := ⟨0x2000⟩ }
        kernel := .ofActions 0x100 [.enableInterrupts, .setFlags ⟨0x602⟩, .poke 0x1001 7 1] }
    let failing : Image :=
      { i with
        kernel := .doing (buildOf true) 0x100
          [.act .enableInterrupts, .log .info "kernel" (.ofText "up"),
            .raise none (.ofText "end")] }
    i.runWalk [true, false] (m.clearDirection.onStack 0x7000) =
        ((i.run [true, false] m).1, (i.run [true, false] m).2.onStack 0x7000) ∧
      failing.runWalk [true, false] (m.clearDirection.onStack 0x7000) =
        ((failing.run [true, false] m).1, (failing.run [true, false] m).2.onStack 0x7000) := by
  intro m i failing
  have hplaced : i.layout.Placed := ⟨by decide, by decide, by decide⟩
  have hactions := (run_eq_runWalk i hplaced (m := m) rfl).2.2 (Kernel.blind_ofActions _ _)
  have herrands := (run_eq_runWalk failing hplaced (m := m) rfl).2.2 (Kernel.blind_doing _ _ _)
  exact ⟨hactions 0x7000 [true, false], herrands 0x7000 [true, false]⟩

end Image

end Handoff
