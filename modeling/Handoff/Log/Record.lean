/-
How a log record reaches the serial port.

A record is written under the console's lock, which is only ever tried: a record
that finds it taken is dropped before its message is formatted.  The first record
after power-on initialises the port.  A message that ends in a formatting error
loses what it had still to say and nothing else; one that raises a fault ends the
record without its newline, and gives the lock back only if faults unwind.
-/
import Handoff.Build
import Handoff.Machine

namespace Handoff

/-- How the formatting of a message ended, unless in a fault. -/
inductive Ending where
  | complete
  | failed
  deriving DecidableEq

namespace Machine

/-- Initialises the serial port, unless that has been done. -/
def initConsole (m : Machine) : Machine :=
  if m.console.ready then m
  else { m with console.ready := true }.note (.serialInit Console.port)

/-- The head of a record. -/
def recordHead (level : Level) (target : String) : String :=
  "[" ++ level.tag ++ " " ++ target ++ "] "

/-- Takes the console and writes the head of a record. -/
def openRecord (level : Level) (target : String) (m : Machine) : Machine :=
  { m with console.locked := true }.initConsole.write (recordHead level target)

/-- Gives the console back. -/
def release (m : Machine) : Machine :=
  { m with console.locked := false }

/-- Counts one more message whose formatting begins. -/
def beginMessage (m : Machine) : Machine :=
  { m with console.formatted := m.console.formatted + 1 }

end Machine

namespace Build

/-- Whether the build writes records of this level at all. -/
def keeps (b : Build) (level : Level) : Bool :=
  b.target = .metal && level.enabled b.checks

/-- Writes one record, formatting its message only if the record is written. -/
def record (b : Build) (level : Level) (target : String)
    (format : EStateM Fault Machine Ending) : EStateM Fault Machine Unit := fun m =>
  if !b.keeps level || m.console.locked then .ok () m
  else match format (m.openRecord level target).beginMessage with
    | .ok _ m => .ok () (m.write "\n").release
    | .error fault m => .error fault (if b.unwinds then m.release else m)

end Build

/-- Formats a message onto the console. -/
def Message.format (b : Build) : Message → EStateM Fault Machine Ending
  | .done => pure .complete
  | .fail => pure .failed
  | .raise location cause => throw (.raised location cause)
  | .write piece rest => do
    modify (·.write piece)
    rest.format b
  | .emit level target message rest => do
    b.record level target (message.format b)
    rest.format b

namespace Build

/-- Emits a record. -/
def log (b : Build) (level : Level) (target : String) (message : Message) :
    EStateM Fault Machine Unit :=
  b.record level target (message.format b)

/-- Emits a record of plain text, which raises nothing. -/
def logText (b : Build) (level : Level) (target text : String) (m : Machine) : Machine :=
  match b.log level target (.ofText text) m with
  | .ok _ m | .error _ m => m

end Build

end Handoff
