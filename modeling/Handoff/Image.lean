/-
A whole kernel image, from the loader's jump to one of its two halt loops.

The entry stub masks interrupts, clears the direction flag and loads the stack
pointer with machine arithmetic of its own.  The rest resumes the hand-off where the
stub left it.  A checked image first asserts that the direction flag is clear and
that the zero-fill range keeps off the boot stack.  Any fault, of the hand-off or of
the kernel, ends in the fault handler.
-/
import Handoff.Actions
import Handoff.FaultHandler
import Handoff.Sequence

namespace Handoff

/-- Where the linker placed what the boot code refers to. -/
structure Layout where
  /-- The storage that must read as zero. -/
  zeroed : Span
  stack : BootStack
  deriving DecidableEq

/-- The stack pointer that the entry stub computes. -/
def Layout.stubStackPointer (l : Layout) : UInt64 :=
  (l.stack.bottom + BootStack.size) &&& (-StackTop.alignment)

/-- The entry stub, up to its call. -/
def Layout.stub (l : Layout) (m : Machine) : Machine :=
  { m.mask.clearDirection with stackPointer := l.stubStackPointer }

/-! ### The kernel of an image -/

/-- One thing that kernel code does. -/
inductive Errand where
  | act (action : Action)
  | log (level : Level) (target : String) (message : Message)
  | raise (location : Option Location) (cause : Message)
  deriving DecidableEq

/-- Does an errand.  Code that follows the calling convention keeps the direction flag
clear, whatever else it does to the flag word. -/
def Errand.perform (b : Build) : Errand → EStateM Fault Machine Unit
  | .act action => modify fun m => (m.act action).clearDirection
  | .log level target message => b.log level target message
  | .raise location cause => throw (.raised location cause)

/-- Does some errands one after another. -/
def Errand.performAll (b : Build) : List Errand → EStateM Fault Machine Unit
  | [] => pure ()
  | errand :: errands => do
    errand.perform b
    performAll b errands

/-- Notes the stack pointer as a kernel called on it finds it: whether the return
address that the call pushes lies in the boot stack, and whether it was aligned. -/
def Machine.noteStack (stack : BootStack) (m : Machine) : Machine :=
  let pushed := m.stackPointer - 8
  m.note (.stack (stack.bottom ≤ pushed && pushed - stack.bottom < BootStack.size)
    (m.stackPointer % StackTop.alignment == 0))

/-- The kernel that notes how it is entered, does some errands and returns. -/
def Kernel.ofErrands (b : Build) (stack : BootStack) (address : UInt64)
    (errands : List Errand) : Kernel Machine where
  address := address
  code := do
    modify fun m => (m.noteStack stack).enterKernel
    Errand.performAll b errands

/-! ### The image -/

/-- A kernel image for the bare machine. -/
structure Image where
  checks : Bool
  layout : Layout
  kernel : Kernel Machine

namespace Image

/-- The build of an image: for metal, and nothing unwinds. -/
def buildOf (checks : Bool) : Build := { checks, target := .metal, unwinds := false }

/-- The build of this image. -/
def build (i : Image) : Build := buildOf i.checks

/-- The processor that an image runs on. -/
def platform (i : Image) : Platform Machine := i.build.platform .native

/-- From the stub's call to the resumed hand-off: the assertions of a checked image. -/
def resume (i : Image) : EStateM Fault Machine Progress := do
  if i.checks then
    if ((← get).nativeFlags i.build.target).contains .direction then
      throw .directionSet
    if ← MonadExcept.ofExcept (i.layout.stack.overlaps i.checks i.layout.zeroed) then
      throw .stackInRange
  let top ← MonadExcept.ofExcept (i.layout.stack.top i.checks)
  MonadExcept.ofExcept (Progress.resume i.platform top (← get))

/-- The hand-off proper, from a progress on. -/
def proceed (i : Image) (wakes : List Bool) (progress : Progress) :
    EStateM Fault Machine Unit := fun m =>
  match Boot.run i.platform i.layout.zeroed i.kernel wakes { progress, machine := m } with
  | .ok _ w => .ok () w.machine
  | .error fault w => .error fault w.machine

/-- Everything after the stub, until it ends in a fault or the watch is over. -/
def afterStub (i : Image) (wakes : List Bool) : EStateM Fault Machine Unit := do
  let progress ← i.resume
  i.proceed wakes progress

/-- Boots the image on a machine as the loader hands it over, and watches the halt
loop it comes to for one halt per entry of `wakes`.  The first component is the fault
that led there, or `none` if the kernel returned. -/
def run (i : Image) (wakes : List Bool) (m : Machine) : Option Fault × Machine :=
  match i.afterStub wakes (i.layout.stub m) with
  | .ok _ m => (none, m)
  | .error fault m => (some fault, i.build.park fault wakes m)

/-- The whole hand-off as one walk from the loader's jump, with no stub before it. -/
def walk (i : Image) (wakes : List Bool) : Boot Machine Unit := do
  Boot.maskInterrupts i.platform
  let top ← MonadExcept.ofExcept (i.layout.stack.top i.checks)
  Boot.establishStack i.platform top
  Boot.run i.platform i.layout.zeroed i.kernel wakes

end Image

end Handoff
