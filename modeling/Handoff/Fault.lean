/-
What can go wrong on the way to the kernel, and how a fault report words it.

Faults are the failed assertions and overflows of a checked build, together with
those raised by kernel code or by the formatting of a message.
-/
import Handoff.Log.Message
import Handoff.Stage

namespace Handoff

/-- The cause of a fault. -/
inductive Fault where
  /-- A subtraction went below zero. -/
  | subtractOverflow
  /-- An addition went beyond the word. -/
  | addOverflow
  /-- The direction flag was set although the entry stub clears it. -/
  | directionSet
  /-- The zero-fill range reaches into the boot stack. -/
  | stackInRange
  /-- The sequence was resumed with interrupts enabled. -/
  | unmaskedOnEntry
  /-- The kernel was about to be called with interrupts enabled. -/
  | unmaskedAtTransfer
  /-- A step was taken to a stage other than the one that follows. -/
  | outOfOrder (due : Option Stage) (taken : Stage)
  /-- Raised by kernel code or by a message. -/
  | raised (location : Option Location) (cause : Message)
  deriving DecidableEq

namespace Fault

/-- What the fault says. -/
def message : Fault → Message
  | subtractOverflow => .ofText "attempt to subtract with overflow"
  | addOverflow => .ofText "attempt to add with overflow"
  | directionSet => .ofText "DF set after cld"
  | stackInRange => .ofText "boot stack inside the zero-fill range"
  | unmaskedOnEntry => .ofText "entered Rust with interrupts enabled"
  | unmaskedAtTransfer => .ofText "interrupts enabled at transfer"
  | outOfOrder due taken =>
    .ofText ("assertion `left == right` failed: boot step out of order\n  left: "
      ++ Stage.displayOption due ++ "\n right: " ++ Stage.displayOption (some taken))
  | raised _ cause => cause

/-- Where the fault report places it. -/
def location : Fault → Option Location
  | subtractOverflow => some ⟨"zero_fill.rs", 70⟩
  | addOverflow => some ⟨"stack.rs", 52⟩
  | directionSet => some ⟨"entry.rs", 57⟩
  | stackInRange => some ⟨"entry.rs", 59⟩
  | unmaskedOnEntry => some ⟨"trampoline.rs", 99⟩
  | unmaskedAtTransfer => some ⟨"trampoline.rs", 152⟩
  | outOfOrder _ _ => some ⟨"trampoline.rs", 120⟩
  | raised location _ => location

/-- The text of the fault alone. -/
def text (f : Fault) : String :=
  f.message.text

end Fault

end Handoff
