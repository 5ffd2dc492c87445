/-
The hand-off step by step: mask interrupts, take the boot stack, zero the storage
that must be zero, call the kernel, and halt if it ever returns.

Every step advances the stage by one, and a checked build faults on a step out of
order.  The order of effects matters.  Masking, taking the stack and zeroing happen
before the order is checked; the call of the kernel and the halt only after it.  A
fault leaves the progress and the machine as they are at that point.
-/
import Handoff.Platform
import Handoff.Stack

namespace Handoff

/-- How far the boot CPU has come. -/
structure Progress where
  stage : Stage
  /-- The stack pointer of the call, once it is known. -/
  stackTop : Option StackTop
  deriving DecidableEq

/-- A boot CPU on its way and the machine it runs on. -/
structure Walk (σ : Type) where
  progress : Progress
  machine : σ

/-- A step of the hand-off: it ends well or in a fault, and leaves a walk either way. -/
abbrev Boot (σ : Type) := EStateM Fault (Walk σ)

namespace Progress

/-- The progress at the loader's jump. -/
def start : Progress := { stage := .init, stackTop := none }

/-- The progress of a CPU that arrives masked and on its stack. -/
def resume {σ : Type} (p : Platform σ) (top : StackTop) (s : σ) : Except Fault Progress :=
  if p.checks && p.interruptsEnabled s then .error .unmaskedOnEntry
  else .ok { stage := .stackEstablished, stackTop := some top }

/-- Goes on to a stage, which in a checked build must be the next one. -/
def advance (checks : Bool) (taken : Stage) (p : Progress) : Except Fault Progress :=
  if checks && p.stage.next != some taken then .error (.outOfOrder p.stage.next taken)
  else .ok { p with stage := taken }

end Progress

namespace Boot

variable {σ : Type} (p : Platform σ)

/-- Changes the machine alone. -/
def onMachine (f : σ → σ) : Boot σ Unit :=
  modify fun w => { w with machine := f w.machine }

/-- Goes on to a stage. -/
def advance (taken : Stage) : Boot σ Unit := do
  let w ← get
  let progress ← MonadExcept.ofExcept (w.progress.advance p.checks taken)
  set { w with progress }

/-- The target of the hand-off's own records. -/
def target : String := "boot"

/-- Emits one of the hand-off's own records. -/
def report (level : Level) (text : String) : Boot σ Unit :=
  onMachine (p.report level target text)

/-! ### The steps -/

/-- Step 1. -/
def maskInterrupts : Boot σ Unit := do
  onMachine p.maskInterrupts
  advance p .interruptsMasked

/-- Step 2: the stack top is noted even if the step turns out to be out of order. -/
def establishStack (top : StackTop) : Boot σ Unit := do
  modify fun w => { w with progress.stackTop := some top }
  advance p .stackEstablished

/-- What the record of a finished zero fill says. -/
def zeroFillText (start length : UInt64) : String :=
  "zero-fill ok: " ++ Numeral.decimal length.toNat ++ " bytes at "
    ++ Numeral.hexadecimal start.toNat

/-- Step 3: zeroes exactly the span.  An empty span causes no write. -/
def zeroFill (span : Span) : Boot σ Unit := do
  unless span.isEmpty do
    let length ← MonadExcept.ofExcept (span.length p.checks)
    onMachine (p.zeroBytes span.start length)
  advance p .zeroFillComplete
  let length ← MonadExcept.ofExcept (span.length p.checks)
  report p .debug (zeroFillText span.start length)

/-- What the record before the call says. -/
def departText (address : UInt64) : String :=
  "entering kernel at " ++ Numeral.hexadecimal address.toNat

/-- Step 4 up to the call itself. -/
def depart (address : UInt64) : Boot σ Unit := do
  if p.checks && p.interruptsEnabled (← get).machine then
    throw .unmaskedAtTransfer
  advance p .transferred
  report p .info (departText address)

/-- Runs the kernel on the machine.  It knows nothing of the hand-off's progress. -/
def call (kernel : Kernel σ) : Boot σ Unit := fun w =>
  match kernel.code w.machine with
  | .ok _ machine => .ok () { w with machine }
  | .error fault machine => .error fault { w with machine }

/-- Step 4: goes on only if the kernel returns. -/
def transfer (kernel : Kernel σ) : Boot σ Unit := do
  depart p kernel.address
  call kernel

/-- What the record of a kernel that returned says. -/
def haltText : String := "kernel entry returned; halting"

/-- Step 5, watched for one halt per entry of `wakes`.  Ending well means that the
watch is over: the loop itself has no end. -/
def halt (wakes : List Bool) : Boot σ Unit := do
  advance p .halted
  report p .error haltText
  onMachine (p.haltLoop wakes)

/-- Steps 3 to 5. -/
def run (span : Span) (kernel : Kernel σ) (wakes : List Bool) : Boot σ Unit := do
  zeroFill p span
  transfer p kernel
  halt p wakes

end Boot

end Handoff
