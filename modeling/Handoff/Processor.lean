/-
The processors that a hand-off can run on, as platforms over the machine.

The recording processor does the same on every build and shows each zero fill as an
event.  The native one executes the machine's own instructions on bare metal; in a
host process, where none of them may be used, it neither masks nor stops, reads
every flag as clear, and writes memory directly.
-/
import Handoff.Log.Record
import Handoff.Platform

namespace Handoff

/-- Which processor carries the privileged operations out. -/
inductive Processor where
  /-- A model that records what it is asked to do. -/
  | recording
  /-- The processor the build is made for. -/
  | native
  deriving DecidableEq

namespace Machine

/-- The flags that the native processor reads: on metal the known bits of the flag
word, in a host process none. -/
def nativeFlags (target : Target) (m : Machine) : Flags :=
  match target with
  | .metal => m.flags.truncate
  | .host => .empty

/-- Zeroes memory as one write. -/
def zeroDirectly (start length : UInt64) (m : Machine) : Machine :=
  { m with memory := m.memory.fill start length.toNat 0 }

/-- Zeroes memory with the string store, a block of machine instructions that may be entered
with `Flags.Forward` only.  What it does then is defined here without looking at the flags.  A
change from outside can leave the direction flag set; the block must not be entered so, and
for that case the definition promises nothing. -/
def zeroByStringStore (start length : UInt64) (m : Machine) : Machine :=
  { m with memory := m.memory.storeString start 0 length.toNat }

end Machine

namespace Build

/-- Whether a halt of the processor stops it at all. -/
def stops (b : Build) (cpu : Processor) : Bool :=
  cpu = .recording || b.target = .metal

/-- The platform of a build with a processor. -/
def platform (b : Build) : Processor → Platform Machine
  | .recording =>
    { checks := b.checks
      maskInterrupts := Machine.mask
      interruptsEnabled := Machine.interruptsEnabled
      halt := Machine.halt
      zeroBytes := fun start length m => (m.note (.zero start length)).zeroDirectly start length
      report := b.logText }
  | .native =>
    match b.target with
    | .metal =>
      { checks := b.checks
        maskInterrupts := Machine.mask
        interruptsEnabled := fun m => (m.nativeFlags .metal).contains .interruptEnable
        halt := Machine.halt
        zeroBytes := Machine.zeroByStringStore
        report := b.logText }
    | .host =>
      { checks := b.checks
        maskInterrupts := id
        interruptsEnabled := fun m => (m.nativeFlags .host).contains .interruptEnable
        halt := fun _ => id
        zeroBytes := Machine.zeroDirectly
        report := b.logText }

end Build

end Handoff
