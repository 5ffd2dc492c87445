/-
What some records leave behind, one after another.

Every record is written under the console's lock and gives it back, however its message
ends, so the next one finds the console free.  `Machine.Logged` says what a stretch of
records has left: the lock free, the port warm if anything was kept, one message formatted
for each record that was, and their texts in order behind the initialisation that a cold
port needed.  It composes, and nothing else that a machine does adds to it.  What a message
emits while it is written is found nowhere in it, for those records find the console locked.
-/
import Handoff.Actions
import Handoff.Proofs.Processor
import Handoff.Proofs.Steps

namespace Handoff

/-! ### Records and their texts -/

/-- A record as it is emitted. -/
structure LogRecord where
  level : Level
  target : String
  message : Message

namespace LogRecord

/-- The line that goes out for a record that is kept; it is not ended if the message runs
into a fault. -/
def text (r : LogRecord) : String :=
  Machine.recordHead r.level r.target ++ r.message.text ++
    if r.message.ending.isOk then "\n" else ""

/-- The same, as it goes out. -/
def said (r : LogRecord) : List String :=
  Machine.recordHead r.level r.target :: r.message.pieces ++
    if r.message.ending.isOk then ["\n"] else []

end LogRecord

/-- The records that a build writes, of all that are emitted. -/
def Build.kept (b : Build) (records : List LogRecord) : List LogRecord :=
  records.filter fun r => b.keeps r.level

theorem Build.kept_append (b : Build) (records records' : List LogRecord) :
    b.kept (records ++ records') = b.kept records ++ b.kept records' :=
  List.filter_append ..

theorem Build.kept_singleton (b : Build) (r : LogRecord) :
    b.kept [r] = if b.keeps r.level then [r] else [] := by
  rw [kept, List.filter_cons, List.filter_nil]

theorem Message.join_pieces (msg : Message) : String.join msg.pieces = msg.text := by
  induction msg with
  | done | fail | raise => rfl
  | write piece rest ih => rw [pieces, String.join_cons, ih, text]
  | emit level target message rest _ ih => exact ih

namespace LogRecord

variable (r : LogRecord)

theorem join_said : String.join r.said = r.text := by
  rw [said, text, String.join_append, String.join_cons, r.message.join_pieces]
  cases r.message.ending.isOk <;> rfl

theorem join_flatMap_said (records : List LogRecord) :
    String.join (records.flatMap said) = String.join (records.map text) := by
  induction records with
  | nil => rfl
  | cons r rs ih =>
    rw [List.flatMap_cons, String.join_append, r.join_said, ih, List.map_cons, String.join_cons]

theorem spoken_eq : r.message.spoken r.level r.target = r.said.map .serial := by
  rw [said, Message.spoken]
  cases r.message.ending <;> simp [Except.isOk, Except.toBool]

end LogRecord

namespace Event

theorem serialText_append (es es' : List Event) :
    serialText (es ++ es') = serialText es ++ serialText es' := by
  induction es with
  | nil => exact (String.empty_append ..).symm
  | cons e es ih => cases e <;> simp [serialText, ih, String.append_assoc]

/-- Only serial events have text. -/
theorem serialText_filter (es : List Event) :
    serialText (es.filter isSerial) = serialText es := by
  induction es with
  | nil => rfl
  | cons e es ih => cases e <;> simp [serialText, isSerial, List.filter_cons, ih]

theorem serialText_serial (texts : List String) :
    serialText (texts.map .serial) = String.join texts := by
  induction texts with
  | nil => rfl
  | cons text texts ih => rw [List.map_cons, serialText, ih, String.join_cons]

end Event

/-! ### From one machine to another -/

/-- What is on the serial port of some records that are kept: the initialisation, if one
was due, and then the records. -/
def Console.transcript (c : Console) (kept : List LogRecord) : List Event :=
  (if c.ready || kept.isEmpty then [] else [.serialInit port]) ++
    (kept.flatMap LogRecord.said).map .serial

/-- The text of it is that of the records. -/
theorem Console.serialText_transcript (c : Console) (kept : List LogRecord) :
    Event.serialText (c.transcript kept) = String.join (kept.map LogRecord.text) := by
  have hinit : Event.serialText (if c.ready || kept.isEmpty then [] else [.serialInit port]) = "" := by
    split <;> rfl
  rw [transcript, Event.serialText_append, hinit, Event.serialText_serial, String.empty_append,
    LogRecord.join_flatMap_said]

/-- On the way from the first machine to the second these records were written, and nothing
else went out on the serial port. -/
structure Machine.Logged (kept : List LogRecord) (m n : Machine) : Prop where
  free : n.console.locked = false
  ready : n.console.ready = (m.console.ready || !kept.isEmpty)
  formatted : n.console.formatted = m.console.formatted + kept.length
  events : n.events.filter Event.isSerial =
    m.events.filter Event.isSerial ++ m.console.transcript kept

namespace Machine.Logged

variable {kept kept' : List LogRecord} {m n k : Machine}

theorem quiet (hfree : m.console.locked = false) (hconsole : n.console = m.console)
    (hevents : n.events.filter Event.isSerial = m.events.filter Event.isSerial) :
    Logged [] m n where
  free := by rw [hconsole, hfree]
  ready := by simp [hconsole]
  formatted := by simp [hconsole]
  events := by simp [hevents, Console.transcript]

theorem note (hfree : m.console.locked = false) {e : Event} (he : e.isSerial = false) :
    Logged [] m (m.note e) :=
  quiet hfree rfl (by simp [Machine.note, List.filter_append, he])

/-- The port is initialised before the first of all records, or not at all. -/
theorem transcript_append (h : Logged kept m n) :
    m.console.transcript (kept ++ kept') = m.console.transcript kept ++ n.console.transcript kept' := by
  cases kept with
  | nil => simp [Console.transcript, h.ready]
  | cons r rs => simp [Console.transcript, h.ready]

theorem trans (h : Logged kept m n) (h' : Logged kept' n k) : Logged (kept ++ kept') m k where
  free := h'.free
  ready := by
    rw [h'.ready, h.ready]
    cases kept <;> simp
  formatted := by rw [h'.formatted, h.formatted, List.length_append, Nat.add_assoc]
  events := by rw [h'.events, h.events, h.transcript_append, List.append_assoc]

theorem trans_quiet (h : Logged kept m n) (h' : Logged [] n k) : Logged kept m k := by
  have hall := h.trans h'
  rwa [List.append_nil] at hall

/-- The same with a history in front. -/
theorem behind {before : List Event} (h : Logged kept { m with events := [] } n) :
    Logged kept { m with events := before } { n with events := before ++ n.events } where
  free := h.free
  ready := h.ready
  formatted := h.formatted
  events := by
    rw [List.filter_append, h.events]
    rfl

end Machine.Logged

/-! ### One record -/

/-- A record that is dropped does nothing at all. -/
theorem Build.log_dropped (b : Build) {level : Level} {m : Machine}
    (h : m.console.locked = true ∨ b.keeps level = false) (target : String) (msg : Message) :
    b.log level target msg m = .ok () m := by
  have hdrops : b.drops level m = true := by
    rcases h with hlocked | hdisabled
    · rw [drops, hlocked, Bool.or_true]
    · rw [drops, hdisabled]
      rfl
  rw [log_eq, if_pos hdrops]

namespace Message

/-- The message without the records that it emits on the way. -/
def alone : Message → Message
  | .done => .done
  | .fail => .fail
  | .raise location cause => .raise location cause
  | .write piece rest => .write piece rest.alone
  | .emit _ _ _ rest => rest.alone

theorem pieces_alone (msg : Message) : msg.alone.pieces = msg.pieces := by
  induction msg with
  | done | fail | raise => rfl
  | write piece rest ih => exact congrArg (piece :: ·) ih
  | emit level target message rest _ ih => exact ih

theorem ending_alone (msg : Message) : msg.alone.ending = msg.ending := by
  induction msg with
  | done | fail | raise => rfl
  | write piece rest ih => exact ih
  | emit level target message rest _ ih => exact ih

end Message

/-- Records within a record make no difference, to whatever depth they go. -/
theorem Build.log_alone (b : Build) (level : Level) (target : String) (msg : Message) :
    b.log level target msg.alone = b.log level target msg := by
  funext m
  simp only [log_eq, Message.spoken, msg.pieces_alone, msg.ending_alone]

namespace Machine.Logged

theorem recorded (r : LogRecord) (m : Machine) :
    Logged [r] m (m.recorded (r.message.spoken r.level r.target) false) where
  free := rfl
  ready := (Bool.or_true _).symm
  formatted := rfl
  events := by
    have hwarm : m.warmUp.filter Event.isSerial = m.warmUp := by
      unfold warmUp
      split <;> rfl
    have hsaid : (r.said.map Event.serial).filter Event.isSerial = r.said.map .serial := by
      rw [List.filter_map]
      exact congrArg _ (List.filter_eq_self.2 fun _ _ => rfl)
    rw [r.spoken_eq, Machine.recorded, List.filter_append, List.filter_append, hwarm, hsaid]
    simp [Console.transcript, warmUp]

section Log

variable {b : Build} {m : Machine} (hfree : m.console.locked = false)
include hfree

/-- **A record leaves the console free**, and is written if its level is kept. -/
theorem log (hunwinds : b.unwinds = true) (r : LogRecord) :
    match b.log r.level r.target r.message m with
    | .ok _ n | .error _ n => Logged (b.kept [r]) m n := by
  rw [b.log_eq, b.drops_of_free hfree, hunwinds, b.kept_singleton]
  cases b.keeps r.level with
  | false => exact quiet hfree rfl rfl
  | true =>
    have hrecorded := recorded r m
    cases r.message.ending <;> exact hrecorded

theorem logText (hunwinds : b.unwinds = true) (level : Level) (target text : String) :
    Logged (b.kept [⟨level, target, .ofText text⟩]) m (b.logText level target text m) :=
  b.logText_of_log (log hfree hunwinds ⟨level, target, .ofText text⟩)

end Log

/-! ### What is not on the serial port -/

section Orders

variable (b : Build) (cpu : Processor) {m : Machine} (hfree : m.console.locked = false)
include hfree

theorem mask : Logged [] m ((b.platform cpu).maskInterrupts m) := by
  rcases b.maskInterrupts_cases cpu with hmask | hmask
  · rw [hmask]
    exact quiet hfree m.console_mask (by simp [List.filter_append, Event.isSerial])
  · rw [hmask]
    exact quiet hfree rfl rfl

theorem halt (wake : Bool) : Logged [] m ((b.platform cpu).halt wake m) := by
  rcases b.halt_cases cpu with hhalt | hhalt
  · rw [hhalt]
    exact quiet hfree (m.console_halt wake) (by simp [List.filter_append, Event.isSerial])
  · rw [hhalt]
    exact quiet hfree rfl rfl

theorem zeroBytes (start length : UInt64) :
    Logged [] m ((b.platform cpu).zeroBytes start length m) := by
  rcases b.zeroBytes_cases cpu start length with hzero | hzero | hzero
  · rw [hzero]
    exact quiet hfree rfl (by simp [Machine.note, List.filter_append, Event.isSerial, zeroDirectly])
  · rw [hzero]
    exact quiet hfree rfl rfl
  · rw [hzero]
    exact quiet hfree rfl rfl

theorem zeroed (span : Span) : Logged [] m ((b.platform cpu).zeroed span m) := by
  unfold Platform.zeroed
  split
  · exact quiet hfree rfl rfl
  · exact zeroBytes b cpu hfree _ _

theorem haltLoop (wakes : List Bool) : Logged [] m ((b.platform cpu).haltLoop wakes m) := by
  unfold Platform.haltLoop
  induction wakes generalizing m with
  | nil => exact quiet hfree rfl rfl
  | cons wake wakes ih =>
    have hmask := mask b cpu hfree
    have hpair := hmask.trans (halt b cpu hmask.free wake)
    exact hpair.trans (ih hpair.free)

end Orders

variable {m : Machine} (hfree : m.console.locked = false)
include hfree

theorem act (action : Action) : Logged [] m (m.act action) := by
  refine quiet hfree ?_ ?_
  · cases action <;> rfl
  · cases action <;> rfl

theorem acts (actions : List Action) : Logged [] m (actions.foldl Machine.act m) := by
  induction actions generalizing m with
  | nil => exact quiet hfree rfl rfl
  | cons action actions ih =>
    have hact := act hfree action
    exact hact.trans (ih hact.free)

/-- A kernel that only does actions says nothing. -/
theorem kernel (actions : List Action) :
    Logged [] m (actions.foldl Machine.act m.enterKernel) := by
  have hentered : Logged [] m m.enterKernel := note hfree rfl
  exact hentered.trans (acts hentered.free actions)

end Machine.Logged

end Handoff
