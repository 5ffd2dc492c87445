/-
What can be done in a session, one step at a time, and what each step answers.
-/
import Handoff.Actions
import Handoff.Machine
import Handoff.Stack

namespace Handoff

/-- Where the bounds of a span come from. -/
inductive Extent where
  /-- Bounds to be checked for their order. -/
  | bounds (start stop : UInt64)
  /-- Bounds taken as they are. -/
  | raw (start stop : UInt64)
  /-- A part of the memory, by its offsets. -/
  | part (first last : UInt64)
  deriving DecidableEq

/-- The span that an extent describes. -/
def Extent.span (m : Memory) : Extent → Except LayoutError Span
  | .bounds start stop => Span.ofBounds start stop
  | .raw start stop => .ok ⟨start, stop⟩
  | .part first last => .ok (Span.ofSize (m.base + first) (last - first))

/-- One thing done in a session. -/
inductive Step where
  /-- A new boot CPU at the loader's jump takes the place of any other. -/
  | start
  /-- A boot CPU that is already masked and on its stack takes the place of any other. -/
  | resume (top : UInt64)
  | mask
  | establish (top : UInt64)
  | zeroFill (extent : Extent)
  | transfer (address : UInt64) (actions : List Action)
  /-- Uses the boot CPU up. -/
  | halt (wakes : List Bool)
  /-- Uses the boot CPU up, unless the extent describes no span. -/
  | run (extent : Extent) (address : UInt64) (actions : List Action) (wakes : List Bool)
  | act (action : Action)
  | maskProcessor
  | askInterrupts
  | readFlags
  /-- One halt; `none` if the watch ends before a processor that stops comes back. -/
  | haltProcessor (wake : Option Bool)
  | zeroBytes (start length : UInt64)
  | log (level : Level) (target : String) (message : Message)
  deriving DecidableEq

/-- One halt of the processor under a budget, if there is one.  The halt that uses
the budget up is not seen to end. -/
def Step.haltWithin (budget : Option Nat) (wake : Bool) : Step :=
  match budget with
  | some 0 | some 1 => .haltProcessor none
  | _ => .haltProcessor (some wake)

/-- What a step answers. -/
inductive Answer where
  | ok
  /-- The halt loop was watched to the end of the watch. -/
  | halted
  | fault (cause : Fault)
  /-- There is no boot CPU to take the step. -/
  | noWalk
  | refused (cause : LayoutError)
  | truth (value : Bool)
  | flags (value : Flags)
  /-- How a record ended, and how many messages were formatted for it. -/
  | logged (cause : Option Fault) (formatted : Nat)
  deriving DecidableEq

end Handoff
