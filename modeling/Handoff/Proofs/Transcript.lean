/-
The serial log of a session is the transcript of the records that it kept.

Which records a step has emitted can be told from its answer, so the records of a session
are known without a look at the serial port.  Each step logs those and no others: that is
shown of every step of the hand-off, by the ways that it can end, and from there of a whole
session by induction.  The text on the port is then the texts of the records that the build
keeps, in their order, and a cold port is initialised once, right before the first of them.
-/
import Handoff.Proofs.Kept
import Handoff.Proofs.Logged

namespace Handoff

/-! ### The records of the hand-off -/

namespace LogRecord

/-- The record of a finished zero fill. -/
def zeroFilled (span : Span) : LogRecord :=
  ⟨.debug, Boot.target, .ofText (Boot.zeroFillText span.start (span.stop - span.start))⟩

/-- The record before the kernel is called. -/
def departing (address : UInt64) : LogRecord :=
  ⟨.info, Boot.target, .ofText (Boot.departText address)⟩

/-- The record of a kernel that returned. -/
def returned : LogRecord :=
  ⟨.error, Boot.target, .ofText Boot.haltText⟩

end LogRecord

/-! ### The steps of the hand-off

Each of them can end in few ways, and each way has logged what it has. -/

namespace Boot

section Cases

variable {b : Build} (hunwinds : b.unwinds = true) (cpu : Processor)
include hunwinds

/-- What the zero fill may run into is not the refusal of the call. -/
theorem zeroFill_logged (span : Span) {w : Walk Machine}
    (hfree : w.machine.console.locked = false) :
    (∃ fault v, fault ≠ .unmaskedAtTransfer ∧ zeroFill (b.platform cpu) span w = .error fault v ∧
      w.machine.Logged [] v.machine) ∨
    ∃ v, v.progress.stage = .zeroFillComplete ∧ zeroFill (b.platform cpu) span w = .ok () v ∧
      w.machine.Logged (b.kept [.zeroFilled span]) v.machine := by
  rcases zeroFill_cases (b.platform cpu) w span with hstop | hfill
  · exact Or.inl ⟨_, _, by simp, hstop, .quiet hfree rfl rfl⟩
  · have hzeroed := Machine.Logged.zeroed b cpu hfree span
    rw [hfill]
    rcases advance_cases (b.platform cpu) _ .zeroFillComplete with ⟨-, hstop⟩ | hgo
    · exact Or.inl ⟨_, _, by simp, bind_of_error hstop, hzeroed⟩
    · refine Or.inr ⟨_, rfl, bind_of_ok hgo, ?_⟩
      rw [b.report_platform]
      exact hzeroed.trans (.logText hzeroed.free hunwinds ..)

/-- Right after the zero fill a call is refused for one reason only. -/
theorem transfer_logged (address : UInt64) (actions : List Action)
    {w : Walk Machine} (hfree : w.machine.console.locked = false) :
    (∃ fault, (w.progress.stage = .zeroFillComplete → fault = .unmaskedAtTransfer) ∧
      transfer (b.platform cpu) (.ofActions address actions) w = .error fault w) ∨
    ∃ v, v.progress.stage = .transferred ∧
      transfer (b.platform cpu) (.ofActions address actions) w = .ok () v ∧
      w.machine.Logged (b.kept [.departing address]) v.machine := by
  by_cases hopen : ((b.platform cpu).checks && (b.platform cpu).interruptsEnabled w.machine) = true
  · refine Or.inl ⟨.unmaskedAtTransfer, fun _ => rfl, bind_of_error ?_⟩
    rw [depart_eq, if_pos hopen]
  · have hdepart := depart_eq (b.platform cpu) w address
    rw [if_neg hopen] at hdepart
    rcases advance_cases (b.platform cpu) w .transferred with ⟨hnext, hstop⟩ | hgo
    · refine Or.inl ⟨_, fun hstage => ?_, bind_of_error (hdepart.trans (bind_of_error hstop))⟩
      exact absurd (congrArg Stage.next hstage) hnext
    · have hlogged := Machine.Logged.logText hfree hunwinds .info target (departText address)
      refine Or.inr ⟨_, rfl, bind_of_ok (hdepart.trans (bind_of_ok hgo)), ?_⟩
      rw [b.report_platform]
      exact hlogged.trans_quiet (.kernel hlogged.free actions)

theorem halt_logged (wakes : List Bool) {w : Walk Machine}
    (hfree : w.machine.console.locked = false) :
    (∃ fault, w.progress.stage ≠ .transferred ∧ halt (b.platform cpu) wakes w = .error fault w) ∨
    ∃ v, halt (b.platform cpu) wakes w = .ok () v ∧
      w.machine.Logged (b.kept [.returned]) v.machine := by
  rw [halt_eq]
  rcases advance_cases (b.platform cpu) w .halted with ⟨hnext, hstop⟩ | hgo
  · exact Or.inl ⟨_, fun hstage => hnext (congrArg Stage.next hstage), bind_of_error hstop⟩
  · have hlogged := Machine.Logged.logText hfree hunwinds .error target haltText
    refine Or.inr ⟨_, bind_of_ok hgo, ?_⟩
    rw [b.report_platform]
    exact hlogged.trans_quiet (.haltLoop b cpu hlogged.free wakes)

/-- Steps 3 to 5 come to the record of the zero fill also if the call is then refused. -/
theorem run_logged (span : Span) (address : UInt64)
    (actions : List Action) (wakes : List Bool) {w : Walk Machine}
    (hfree : w.machine.console.locked = false) :
    (∃ fault v, fault ≠ .unmaskedAtTransfer ∧
      run (b.platform cpu) span (.ofActions address actions) wakes w = .error fault v ∧
      w.machine.Logged [] v.machine) ∨
    (∃ v, run (b.platform cpu) span (.ofActions address actions) wakes w =
        .error .unmaskedAtTransfer v ∧
      w.machine.Logged (b.kept [.zeroFilled span]) v.machine) ∨
    ∃ v, run (b.platform cpu) span (.ofActions address actions) wakes w = .ok () v ∧
      w.machine.Logged (b.kept [.zeroFilled span, .departing address, .returned]) v.machine := by
  rcases zeroFill_logged hunwinds cpu span hfree with
    ⟨fault, v, hne, hstop, hlogged⟩ | ⟨v, hstage, hzero, hlogged⟩
  · exact Or.inl ⟨fault, v, hne, bind_of_error hstop, hlogged⟩
  rw [run, bind_of_ok hzero]
  rcases transfer_logged hunwinds cpu address actions hlogged.free with
    ⟨fault, hrefused, hstop⟩ | ⟨v', hstage', htransfer, hlogged'⟩
  · obtain rfl := hrefused hstage
    exact Or.inr (Or.inl ⟨v, bind_of_error hstop, hlogged⟩)
  rw [bind_of_ok htransfer]
  rcases halt_logged hunwinds cpu wakes hlogged'.free with
    ⟨fault, hstage'', -⟩ | ⟨v'', hhalt, hlogged''⟩
  · exact absurd hstage' hstage''
  · have hall := hlogged.trans (hlogged'.trans hlogged'')
    rw [← b.kept_append, ← b.kept_append] at hall
    exact Or.inr (Or.inr ⟨v'', hhalt, hall⟩)

end Cases

end Boot

/-! ### The records of a step -/

/-- The record of a zero fill over that extent, if it describes a span. -/
def Extent.zeroFilled (m : Memory) (extent : Extent) : List LogRecord :=
  match extent.span m with
  | .ok span => [.zeroFilled span]
  | .error _ => []

/-- The records that a step with that answer has emitted.  A step emits its own when it
ends well; steps 3 to 5 together have also emitted the first of theirs when the call is
refused. -/
def Step.records (m : Memory) : Step → Answer → List LogRecord
  | .log level target message, _ => [⟨level, target, message⟩]
  | .zeroFill extent, .ok => extent.zeroFilled m
  | .transfer address _, .ok => [.departing address]
  | .halt _, .halted => [.returned]
  | .run extent address _ _, .halted => extent.zeroFilled m ++ [.departing address, .returned]
  | .run extent _ _ _, .fault .unmaskedAtTransfer => extent.zeroFilled m
  | _, _ => []

namespace Boot

/-- However the step ends, the records that its answer tells of are those that it logged. -/
def Logs (b : Build) (step : Boot Machine Unit) (done : Answer)
    (records : Answer → List LogRecord) : Prop :=
  ∀ w, w.machine.console.locked = false →
    (∃ fault v, step w = .error fault v ∧
      w.machine.Logged (b.kept (records (.fault fault))) v.machine) ∨
    ∃ v, step w = .ok () v ∧ w.machine.Logged (b.kept (records done)) v.machine

variable {b : Build} {cpu : Processor}

theorem logs_maskInterrupts :
    (maskInterrupts (b.platform cpu)).Logs b .ok fun _ => [] := by
  intro w hfree
  have hmask := Machine.Logged.mask b cpu hfree
  rw [maskInterrupts_eq]
  rcases advance_cases (b.platform cpu) _ .interruptsMasked with ⟨-, hstop⟩ | hgo
  · exact Or.inl ⟨_, _, hstop, hmask⟩
  · exact Or.inr ⟨_, hgo, hmask⟩

theorem logs_establishStack (top : StackTop) :
    (establishStack (b.platform cpu) top).Logs b .ok fun _ => [] := by
  intro w hfree
  have hquiet : w.machine.Logged [] w.machine := .quiet hfree rfl rfl
  rw [establishStack_eq]
  rcases advance_cases (b.platform cpu) _ .stackEstablished with ⟨-, hstop⟩ | hgo
  · exact Or.inl ⟨_, _, hstop, hquiet⟩
  · exact Or.inr ⟨_, hgo, hquiet⟩

variable (hunwinds : b.unwinds = true) {m : Memory} {extent : Extent} {span : Span}
include hunwinds

theorem logs_zeroFill (hspan : extent.span m = .ok span) :
    (zeroFill (b.platform cpu) span).Logs b .ok ((Step.zeroFill extent).records m) := by
  intro w hfree
  rcases zeroFill_logged hunwinds cpu span hfree with
    ⟨fault, v, -, hstop, hlogged⟩ | ⟨v, -, hzero, hlogged⟩
  · exact Or.inl ⟨fault, v, hstop, hlogged⟩
  · refine Or.inr ⟨v, hzero, ?_⟩
    rw [Step.records, Extent.zeroFilled, hspan]
    exact hlogged

theorem logs_transfer (address : UInt64) (actions : List Action) :
    (transfer (b.platform cpu) (.ofActions address actions)).Logs b .ok
      ((Step.transfer address actions).records m) := by
  intro w hfree
  rcases transfer_logged hunwinds cpu address actions hfree with
    ⟨fault, -, hstop⟩ | ⟨v, -, htransfer, hlogged⟩
  · exact Or.inl ⟨fault, w, hstop, .quiet hfree rfl rfl⟩
  · exact Or.inr ⟨v, htransfer, hlogged⟩

theorem logs_halt (wakes : List Bool) :
    (halt (b.platform cpu) wakes).Logs b .halted ((Step.halt wakes).records m) := by
  intro w hfree
  rcases halt_logged hunwinds cpu wakes hfree with ⟨fault, -, hstop⟩ | ⟨v, hhalt, hlogged⟩
  · exact Or.inl ⟨fault, w, hstop, .quiet hfree rfl rfl⟩
  · exact Or.inr ⟨v, hhalt, hlogged⟩

theorem logs_run (hspan : extent.span m = .ok span) (address : UInt64) (actions : List Action)
    (wakes : List Bool) :
    (run (b.platform cpu) span (.ofActions address actions) wakes).Logs b .halted
      ((Step.run extent address actions wakes).records m) := by
  intro w hfree
  have hzeroed : extent.zeroFilled m = [.zeroFilled span] := by rw [Extent.zeroFilled, hspan]
  rcases run_logged hunwinds cpu span address actions wakes hfree with
    ⟨fault, v, hne, hstop, hlogged⟩ | ⟨v, hstop, hlogged⟩ | ⟨v, hrun, hlogged⟩
  · have hnone : (Step.run extent address actions wakes).records m (.fault fault) = [] := by
      cases fault <;> first | rfl | exact absurd rfl hne
    refine Or.inl ⟨fault, v, hstop, ?_⟩
    rw [hnone]
    exact hlogged
  · refine Or.inl ⟨_, v, hstop, ?_⟩
    rw [Step.records, hzeroed]
    exact hlogged
  · refine Or.inr ⟨v, hrun, ?_⟩
    rw [Step.records, hzeroed]
    exact hlogged

end Boot

/-! ### Sessions -/

namespace Session

variable {b : Build}

/-- The records that some steps emit, one step after another. -/
def records (b : Build) (cpu : Processor) (s : Session) : List Step → List LogRecord
  | [] => []
  | step :: steps =>
    let taken := s.clearEvents.step b cpu step
    step.records s.machine.memory taken.1 ++ taken.2.records b cpu steps

section Walk

variable {s : Session} (hfree : s.machine.console.locked = false) {done : Answer} {last : Bool}
  {records : Answer → List LogRecord} (hnone : records .noWalk = [])
include hfree hnone

theorem walk_logged {step : Boot Machine Unit} (hstep : step.Logs b done records) :
    s.machine.Logged (b.kept (records (s.walk done last step).1))
      (s.walk done last step).2.machine := by
  unfold walk
  cases s.progress with
  | none =>
    simp only [hnone]
    exact .quiet hfree rfl rfl
  | some progress =>
    rcases hstep ⟨progress, s.machine⟩ hfree with ⟨fault, v, hstop, hlogged⟩ | ⟨v, hgo, hlogged⟩
    · simp only [hstop]
      exact hlogged
    · simp only [hgo]
      exact hlogged

theorem walkOver_logged {extent : Extent} {step : Span → Boot Machine Unit}
    (hrefused : ∀ cause, records (.refused cause) = [])
    (hstep : ∀ span, extent.span s.machine.memory = .ok span → (step span).Logs b done records) :
    s.machine.Logged (b.kept (records (s.walkOver extent done last step).1))
      (s.walkOver extent done last step).2.machine := by
  unfold walkOver
  split
  · simp only [hnone]
    exact .quiet hfree rfl rfl
  · simp only [hrefused]
    exact .quiet hfree rfl rfl
  · rename_i span _ hspan
    exact walk_logged hfree hnone (hstep span hspan)

end Walk

/-- **A step logs the records that it answers for.** -/
theorem step_logged (hunwinds : b.unwinds = true) (cpu : Processor) {s : Session}
    (hfree : s.machine.console.locked = false) (step : Step) :
    s.machine.Logged (b.kept (step.records s.machine.memory (s.step b cpu step).1))
      (s.step b cpu step).2.machine := by
  have hquiet : s.machine.Logged [] s.machine := .quiet hfree rfl rfl
  cases step with
  | start => exact hquiet
  | resume top =>
    simp only [Session.step]
    split <;> exact hquiet
  | mask => exact walk_logged hfree rfl Boot.logs_maskInterrupts
  | establish top => exact walk_logged hfree rfl (Boot.logs_establishStack _)
  | zeroFill extent =>
    exact walkOver_logged hfree rfl (fun _ => rfl) fun _ => Boot.logs_zeroFill hunwinds
  | transfer address actions =>
    exact walk_logged hfree rfl (Boot.logs_transfer hunwinds address actions)
  | halt wakes => exact walk_logged hfree rfl (Boot.logs_halt hunwinds wakes)
  | run extent address actions wakes =>
    exact walkOver_logged hfree rfl (fun _ => rfl) fun _ hspan =>
      Boot.logs_run hunwinds hspan address actions wakes
  | act action => exact .act hfree action
  | maskProcessor => exact .mask b cpu hfree
  | askInterrupts => exact hquiet
  | readFlags => exact hquiet
  | haltProcessor wake =>
    cases wake with
    | none => exact .halt b cpu hfree false
    | some wake => exact .halt b cpu hfree wake
  | zeroBytes start length => exact .zeroBytes b cpu hfree start length
  | log level target message =>
    exact emit_of_record (Machine.Logged.log hfree hunwinds ⟨level, target, message⟩)

/-- A session logs the records of its steps in their order. -/
theorem run_logged (hunwinds : b.unwinds = true) (cpu : Processor) {s : Session}
    (hfree : s.machine.console.locked = false) (steps : List Step) :
    s.clearEvents.machine.Logged (b.kept (s.records b cpu steps))
      { (s.run b cpu steps).2.machine with
        events := (s.run b cpu steps).1.flatMap Report.events } := by
  induction steps generalizing s with
  | nil => exact .quiet hfree rfl rfl
  | cons step steps ih =>
    have hstep := step_logged hunwinds cpu (s := s.clearEvents) hfree step
    have hrest := ih hstep.free
    rw [records, b.kept_append]
    exact hstep.trans hrest.behind

/-- What a session shows of the records that it kept, and how it leaves the console. -/
structure Transcribed (b : Build) (cpu : Processor) (s : Session) (steps : List Step) : Prop where
  /-- No record keeps the console, whatever its message did. -/
  free : (s.run b cpu steps).2.machine.console.locked = false
  text : Event.serialText ((s.run b cpu steps).1.flatMap Report.events) =
    String.join ((b.kept (s.records b cpu steps)).map LogRecord.text)
  /-- A cold port is initialised before the first record that is kept, and then no more. -/
  port : ((s.run b cpu steps).1.flatMap Report.events).filter Event.isSerial =
    s.machine.console.transcript (b.kept (s.records b cpu steps))
  ready : (s.run b cpu steps).2.machine.console.ready =
    (s.machine.console.ready || !(b.kept (s.records b cpu steps)).isEmpty)
  /-- Nothing but the messages of those records was formatted. -/
  formatted : (s.run b cpu steps).2.machine.console.formatted =
    s.machine.console.formatted + (b.kept (s.records b cpu steps)).length

/-- **The serial text is the kept records in their order**, after any steps of a build whose
faults unwind, and the console is free.  A record that finds the console taken, or whose
level is disabled, does nothing; and so a message may emit what it likes. -/
theorem transcribed {b : Build} (hunwinds : b.unwinds = true) :
    (∀ cpu s steps, s.machine.console.locked = false → Transcribed b cpu s steps) ∧
    (∀ level target msg m, m.console.locked = true ∨ b.keeps level = false →
      b.log level target msg m = .ok () m) ∧
    ∀ level target msg, b.log level target msg.alone = b.log level target msg := by
  refine ⟨fun cpu s steps hfree => ?_, fun level target msg m h => b.log_dropped h target msg,
    b.log_alone⟩
  have hlogged := run_logged hunwinds cpu hfree steps
  have hport : ((s.run b cpu steps).1.flatMap Report.events).filter Event.isSerial =
      s.machine.console.transcript (b.kept (s.records b cpu steps)) := hlogged.events
  refine ⟨hlogged.free, ?_, hport, hlogged.ready, hlogged.formatted⟩
  rw [← Event.serialText_filter, hport, Console.serialText_transcript]

/-- A message that emits a record and then fails, a record of a disabled level, a boot, and
a message that raises a fault before the boot's last record. -/
def interrupted : List Step :=
  [.log .info "a" (.write "x" (.emit .error "b" (.raise none .done) (.write "y" .fail))),
    .log .trace "a" (.ofText "z"),
    .start, .mask, .establish 0x8008, .zeroFill (.raw 0x1000 0x1000), .transfer 0x2000 [],
    .log .error "c" (.write "x" (.raise none (.ofText "y"))), .halt [true]]

theorem transcribed_interrupted :
    let s := powerOn { flags := ⟨0x202⟩, memory := .absent, console := .idle false }
    let taken := { s.machine with console := { ready := true, locked := true, formatted := 1 } }
    Transcribed .metalRelease .native s interrupted ∧
      Event.serialText ((s.run .metalRelease .native interrupted).1.flatMap Report.events) =
        "[INFO a] xy\n[INFO boot] entering kernel at 0x2000\n[ERROR c] x" ++
          "[ERROR boot] kernel entry returned; halting\n" ∧
      Build.metalRelease.log .error "b" (.raise none .done) taken = .ok () taken := by
  intro s taken
  have hall : Transcribed .metalRelease .native s interrupted :=
    (transcribed rfl).1 .native s interrupted rfl
  have hdropped := (transcribed (b := .metalRelease) rfl).2.1 .error "b" (.raise none .done) taken
  refine ⟨hall, hall.text.trans ?_, hdropped (Or.inl rfl)⟩
  decide

end Session

end Handoff
