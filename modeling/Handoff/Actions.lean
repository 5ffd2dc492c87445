/-
What kernel code, or anything else beside the hand-off, does to the machine.
-/
import Handoff.Machine
import Handoff.Platform

namespace Handoff

/-- A change made to the machine from outside the hand-off. -/
inductive Action where
  | enableInterrupts
  | setFlags (flags : Flags)
  | poke (address : UInt64) (byte : UInt8) (count : Nat)
  deriving DecidableEq

namespace Machine

/-- Carries an action out. -/
def act (m : Machine) : Action → Machine
  | .enableInterrupts => m.unmask
  | .setFlags flags => { m with flags }
  | .poke address byte count => { m with memory := m.memory.fill address count byte }

/-- Notes that the kernel was entered, and what it finds. -/
def enterKernel (m : Machine) : Machine :=
  m.note (.entry m.interruptsEnabled m.memory.nonzero)

end Machine

/-- The kernel that does some actions and returns. -/
def Kernel.ofActions (address : UInt64) (actions : List Action) : Kernel Machine where
  address := address
  code := modify fun m => actions.foldl Machine.act m.enterKernel

end Handoff
