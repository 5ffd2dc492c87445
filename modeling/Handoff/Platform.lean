/-
What the hand-off asks of the processor and of the log, over any machine state.

The hand-off itself is written against this interface, so that whatever holds of
it for every platform holds on the bare machine and in a host process alike.
-/
import Handoff.Log.Level
import Handoff.Fault

namespace Handoff

/-- The privileged operations and the log of one build, over machine states `σ`. -/
structure Platform (σ : Type) where
  /-- Whether assertions and overflows are checked. -/
  checks : Bool
  maskInterrupts : σ → σ
  interruptsEnabled : σ → Bool
  /-- Stops until the next interrupt; the flag says whether that interrupt leaves
  interrupts enabled. -/
  halt : Bool → σ → σ
  /-- Zeroes a number of bytes from an address on. -/
  zeroBytes : UInt64 → UInt64 → σ → σ
  /-- Emits a record of plain text. -/
  report : Level → String → String → σ → σ

/-- The kernel as the hand-off sees it: an address to report and code to call. -/
structure Kernel (σ : Type) where
  address : UInt64
  code : EStateM Fault σ Unit

/-- The address of a kernel's entry as a value. -/
def displayEntry (address : UInt64) : String :=
  "EntryPoint(" ++ Numeral.hexadecimal address.toNat ++ ")"

namespace Platform

variable {σ : Type}

/-- The loop that never ends, watched for one halt per entry of `wakes`: interrupts
are masked again before every halt, whatever the last one left behind. -/
def haltLoop (p : Platform σ) (wakes : List Bool) (s : σ) : σ :=
  wakes.foldl (fun s wake => p.halt wake (p.maskInterrupts s)) s

end Platform

/-- Watching a halt loop for some halts, each but the last of which ends with
interrupts enabled or not; the last is not seen to end. -/
def watch (halts : Nat) (wake : Bool) : List Bool :=
  List.replicate (halts - 1) wake ++ [false]

end Handoff
