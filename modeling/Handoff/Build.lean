/-
The builds of the boot code, and word arithmetic under their overflow policy.

A build either checks its assertions and overflows, or skips the assertions and
lets arithmetic wrap.  Apart from that it is meant for the bare machine, where
records go to the serial port, or for a host process, where they are thrown away.
-/
import Handoff.Fault

namespace Handoff

/-- What a build runs on. -/
inductive Target where
  /-- An ordinary process, without privileged instructions or a serial port. -/
  | host
  /-- The bare machine with its serial port. -/
  | metal
  deriving DecidableEq

/-- One compilation of the boot code. -/
structure Build where
  /-- Whether assertions and overflows are checked. -/
  checks : Bool
  target : Target
  /-- Whether a fault unwinds, releasing what was held, instead of going straight
  to the fault handler. -/
  unwinds : Bool := true
  deriving DecidableEq

namespace Build

/-- Checked, in a host process. -/
def debug : Build := { checks := true, target := .host }

/-- Unchecked, in a host process. -/
def release : Build := { checks := false, target := .host }

/-- Checked, on the bare machine. -/
def metalDebug : Build := { checks := true, target := .metal }

/-- Unchecked, on the bare machine. -/
def metalRelease : Build := { checks := false, target := .metal }

/-- The named builds. -/
def named : List (String × Build) :=
  [("debug", debug), ("release", release),
    ("metal-debug", metalDebug), ("metal-release", metalRelease)]

/-- The build of that name. -/
def ofName? (name : String) : Option Build :=
  named.lookup name

end Build

/-! ### Words

Checked arithmetic refuses a result that does not fit; unchecked arithmetic wraps.
-/

namespace Word

/-- `a - b`, a fault below zero in a checked build. -/
def sub (checks : Bool) (a b : UInt64) : Except Fault UInt64 :=
  if checks && a < b then .error .subtractOverflow else .ok (a - b)

/-- `a + b`, a fault beyond the word in a checked build. -/
def add (checks : Bool) (a b : UInt64) : Except Fault UInt64 :=
  if checks && a + b < a then .error .addOverflow else .ok (a + b)

/-- A difference that does not go below zero is the same in every build. -/
theorem sub_of_le {checks : Bool} {a b : UInt64} (h : b ≤ a) : sub checks a b = .ok (a - b) := by
  simp [sub, UInt64.not_lt.2 h]

end Word

end Handoff
