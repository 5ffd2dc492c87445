/-
The machine under the boot code: its flag word, its memory, its serial console,
and the list of what was seen to happen on it.

Everything that can be observed from outside is an event, appended as it happens.
The console keeps two facts that outlive a record: whether the port has been
initialised since power-on, and whether a record is being written right now.
-/
import Handoff.Flags
import Handoff.Memory

namespace Handoff

/-- Something seen to happen on the machine. -/
inductive Event where
  /-- Interrupts were masked. -/
  | mask
  /-- The processor stopped until the next interrupt. -/
  | halt
  /-- The processor was asked to zero `length` bytes. -/
  | zero (start length : UInt64)
  /-- The serial port was initialised. -/
  | serialInit (port : UInt16)
  /-- Text went out on the serial port. -/
  | serial (text : String)
  /-- The stack pointer as the kernel finds it. -/
  | stack (onBootStack aligned : Bool)
  /-- The kernel was entered. -/
  | entry (interruptsEnabled : Bool) (nonzero : Nat)
  deriving DecidableEq

namespace Event

/-- Whether the event is one of the serial port. -/
def isSerial : Event → Bool
  | serialInit _ | serial _ => true
  | _ => false

/-- All text that went out on the serial port. -/
def serialText : List Event → String
  | [] => ""
  | serial text :: events => text ++ serialText events
  | _ :: events => serialText events

/-- Joins the pieces of serial text that follow each other. -/
def join : List Event → List Event
  | [] => []
  | .serial text :: events =>
    match join events with
    | .serial more :: events => .serial (text ++ more) :: events
    | events => .serial text :: events
  | event :: events => event :: join events

end Event

/-- The serial console. -/
structure Console where
  /-- Whether the port has been initialised since power-on. -/
  ready : Bool
  /-- Whether a record is being written. -/
  locked : Bool
  /-- How many messages have begun to be formatted. -/
  formatted : Nat
  deriving DecidableEq

namespace Console

/-- The base of the port's registers. -/
def port : UInt16 := 0x3F8

/-- A console after power-on, its port initialised or not. -/
def idle (ready : Bool) : Console := { ready, locked := false, formatted := 0 }

end Console

/-- The state of the machine and its history. -/
structure Machine where
  flags : Flags
  memory : Memory
  console : Console
  /-- The address in the stack pointer register. -/
  stackPointer : UInt64 := 0
  /-- Whether masking interrupts has its effect on the flag word. -/
  maskable : Bool := true
  events : List Event := []
  deriving DecidableEq

namespace Machine

/-- Appends an event to the history. -/
def note (e : Event) (m : Machine) : Machine :=
  { m with events := m.events ++ [e] }

/-- Whether interrupts are delivered. -/
def interruptsEnabled (m : Machine) : Bool :=
  m.flags.contains .interruptEnable

/-- Lets interrupts through. -/
def unmask (m : Machine) : Machine :=
  { m with flags := m.flags.union .interruptEnable }

/-- Masks interrupts, or on a machine that cannot be masked only tries to. -/
def mask (m : Machine) : Machine :=
  let m := m.note .mask
  if m.maskable then { m with flags := m.flags.diff .interruptEnable } else m

/-- Stops until the next interrupt; `wakes` says whether the processor comes back
with interrupts enabled. -/
def halt (wakes : Bool) (m : Machine) : Machine :=
  let m := m.note .halt
  if wakes then m.unmask else m

/-- Makes string instructions walk towards higher addresses. -/
def clearDirection (m : Machine) : Machine :=
  { m with flags := m.flags.diff .direction }

/-- Sends text out on the serial port. -/
def write (text : String) (m : Machine) : Machine :=
  m.note (.serial text)

end Machine

end Handoff
