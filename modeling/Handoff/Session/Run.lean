/-
Boot steps taken one after another, in any order, on one machine.

A session holds at most one boot CPU's progress.  A fault ends the step that raised
it and nothing else, so a session goes on after one: this is where it shows what a
failed step leaves behind.
-/
import Handoff.Processor
import Handoff.Sequence
import Handoff.Session.Step

namespace Handoff

/-- A boot CPU's progress, if there is a boot CPU, and the machine. -/
structure Session where
  progress : Option Progress
  machine : Machine
  deriving DecidableEq

/-- What shows after a step: its answer, the state it left, and its events. -/
structure Report where
  answer : Answer
  stage : Option Stage
  stackTop : Option StackTop
  flags : Flags
  events : List Event
  deriving DecidableEq

namespace Session

/-- Takes a step of the hand-off with the boot CPU there is.  `done` is the answer
if it ends well, and `last` says whether it uses the boot CPU up. -/
def walk (s : Session) (done : Answer) (last : Bool) (step : Boot Machine Unit) :
    Answer × Session :=
  match s.progress with
  | none => (.noWalk, s)
  | some progress =>
    match step { progress, machine := s.machine } with
    | .ok _ w => (done, ⟨if last then none else some w.progress, w.machine⟩)
    | .error cause w => (.fault cause, ⟨if last then none else some w.progress, w.machine⟩)

/-- The same for a step over a span, which an extent may fail to describe. -/
def walkOver (s : Session) (extent : Extent) (done : Answer) (last : Bool)
    (step : Span → Boot Machine Unit) : Answer × Session :=
  match s.progress, extent.span s.machine.memory with
  | none, _ => (.noWalk, s)
  | some _, .error cause => (.refused cause, s)
  | some _, .ok span => s.walk done last (step span)

/-- Changes the machine alone. -/
def touch (s : Session) (f : Machine → Machine) : Session :=
  { s with machine := f s.machine }

/-- Emits a record, and counts the messages formatted for it. -/
def emit (s : Session) (record : EStateM Fault Machine Unit) : Answer × Session :=
  match record s.machine with
  | .ok _ m =>
    (.logged none (m.console.formatted - s.machine.console.formatted), { s with machine := m })
  | .error cause m =>
    (.logged (some cause) (m.console.formatted - s.machine.console.formatted),
      { s with machine := m })

/-- Takes one step. -/
def step (b : Build) (cpu : Processor) (s : Session) : Step → Answer × Session
  | .start => (.ok, { s with progress := some .start })
  | .resume top =>
    match Progress.resume (b.platform cpu) (.alignDown top) s.machine with
    | .ok progress => (.ok, { s with progress := some progress })
    | .error cause => (.fault cause, { s with progress := none })
  | .mask => s.walk .ok false (Boot.maskInterrupts (b.platform cpu))
  | .establish top => s.walk .ok false (Boot.establishStack (b.platform cpu) (.alignDown top))
  | .zeroFill extent => s.walkOver extent .ok false (Boot.zeroFill (b.platform cpu))
  | .transfer address actions =>
    s.walk .ok false (Boot.transfer (b.platform cpu) (.ofActions address actions))
  | .halt wakes => s.walk .halted true (Boot.halt (b.platform cpu) wakes)
  | .run extent address actions wakes =>
    s.walkOver extent .halted true fun span =>
      Boot.run (b.platform cpu) span (.ofActions address actions) wakes
  | .act action => (.ok, s.touch (·.act action))
  | .maskProcessor => (.ok, s.touch (b.platform cpu).maskInterrupts)
  | .askInterrupts => (.truth ((b.platform cpu).interruptsEnabled s.machine), s)
  | .readFlags => (.flags (s.machine.nativeFlags b.target), s)
  | .haltProcessor none =>
    (if b.stops cpu then .halted else .ok, s.touch ((b.platform cpu).halt false))
  | .haltProcessor (some wake) => (.ok, s.touch ((b.platform cpu).halt wake))
  | .zeroBytes start length => (.ok, s.touch ((b.platform cpu).zeroBytes start length))
  | .log level target message => s.emit (b.log level target message)

/-- What shows of a session after a step. -/
def report (answer : Answer) (s : Session) : Report where
  answer := answer
  stage := s.progress.map Progress.stage
  stackTop := s.progress.bind Progress.stackTop
  flags := s.machine.flags
  events := s.machine.events

/-- Forgets the history. -/
def clearEvents (s : Session) : Session :=
  s.touch fun m => { m with events := [] }

/-- Takes some steps one after another, each on a clean history, and reports on each. -/
def run (b : Build) (cpu : Processor) (s : Session) : List Step → List Report × Session
  | [] => ([], s)
  | step :: steps =>
    let taken := s.clearEvents.step b cpu step
    let rest := taken.2.run b cpu steps
    (taken.2.report taken.1 :: rest.1, rest.2)

/-- A session at power-on: no boot CPU, and nothing has happened. -/
def powerOn (machine : Machine) : Session :=
  { progress := none, machine }

end Session

end Handoff
