/-
What a record leaves behind.

Formatting a message is a walk over a tree that may emit records of its own.  All of
those find the console locked, so they are dropped, and what is left of a message is
two things: the pieces it writes itself and the way it ends.  `format_locked` is that
argument, by induction on the message.  `log_eq` then gives a whole record in closed
form: nothing happens if it is dropped, and otherwise the port is initialised if it
was cold, the record's own text goes out, and nothing but the console and the history
is touched.
-/
import Handoff.Log.Record

namespace Handoff

namespace Message

/-- The pieces of text that the message writes itself. -/
def pieces : Message → List String
  | .done | .fail | .raise _ _ => []
  | .write piece rest => piece :: rest.pieces
  | .emit _ _ _ rest => rest.pieces

/-- How the formatting of the message ends. -/
def ending : Message → Except Fault Ending
  | .done => .ok .complete
  | .fail => .ok .failed
  | .raise location cause => .error (.raised location cause)
  | .write _ rest | .emit _ _ _ rest => rest.ending

/-- What a record of the message sends out: its head, the pieces, and the newline
unless the message ends in a fault. -/
def spoken (level : Level) (target : String) (msg : Message) : List Event :=
  .serial (Machine.recordHead level target) :: msg.pieces.map .serial ++
    match msg.ending with
    | .ok _ => [.serial "\n"]
    | .error _ => []

theorem spoken_serial {level : Level} {target : String} {msg : Message} {e : Event}
    (he : e ∈ msg.spoken level target) : ∃ text, e = .serial text := by
  simp only [spoken, List.cons_append, List.mem_cons, List.mem_append, List.mem_map] at he
  rcases he with rfl | ⟨piece, -, rfl⟩ | hend
  · exact ⟨_, rfl⟩
  · exact ⟨_, rfl⟩
  · split at hend
    · exact ⟨_, List.mem_singleton.1 hend⟩
    · simp at hend

end Message

namespace Machine

/-- Sends some pieces of text out. -/
def say (pieces : List String) (m : Machine) : Machine :=
  { m with events := m.events ++ pieces.map .serial }

/-- What the next record says before its head: the port's initialisation, if it is
still to be done. -/
def warmUp (m : Machine) : List Event :=
  if m.console.ready then [] else [.serialInit Console.port]

/-- The machine after a record that sent `spoken` out. -/
def recorded (m : Machine) (spoken : List Event) (locked : Bool) : Machine :=
  { m with
    events := m.events ++ m.warmUp ++ spoken
    console := { ready := true, locked, formatted := m.console.formatted + 1 } }

/-- All that is seen of a record is on the serial port. -/
theorem isSerial_of_record (m : Machine) {spoken : List Event}
    (hspoken : ∀ e ∈ spoken, ∃ text, e = .serial text) :
    ∀ e ∈ m.warmUp ++ spoken, e.isSerial = true := by
  intro e he
  rcases List.mem_append.1 he with hwarm | hsaid
  · unfold warmUp at hwarm
    split at hwarm
    · cases hwarm
    · rw [List.mem_singleton.1 hwarm]
      rfl
  · obtain ⟨text, rfl⟩ := hspoken e hsaid
    rfl

theorem say_nil (m : Machine) : m.say [] = m := by
  simp [say]

theorem say_write (m : Machine) (piece : String) (pieces : List String) :
    (m.write piece).say pieces = m.say (piece :: pieces) := by
  simp [say, write, note]

/-- A record that is opened has initialised the port and said its head. -/
theorem openRecord_eq (m : Machine) (level : Level) (target : String) :
    (m.openRecord level target).beginMessage =
      { m with
        events := m.events ++ m.warmUp ++ [.serial (recordHead level target)]
        console := { ready := true, locked := true, formatted := m.console.formatted + 1 } } := by
  simp only [openRecord, initConsole, warmUp, beginMessage, write, note]
  split <;> simp_all

end Machine

/-! ### Formatting under the lock -/

theorem Build.record_locked (b : Build) (level : Level) (target : String)
    (format : EStateM Fault Machine Ending) {m : Machine} (h : m.console.locked = true) :
    b.record level target format m = .ok () m := by
  simp [record, h]

/-- Under the lock a message only says its own pieces, whatever else it tries. -/
theorem Message.format_locked (b : Build) (msg : Message) {m : Machine}
    (h : m.console.locked = true) :
    msg.format b m =
      match msg.ending with
      | .ok ending => .ok ending (m.say msg.pieces)
      | .error fault => .error fault (m.say msg.pieces) := by
  induction msg generalizing m with
  | done => simp [format, ending, pieces, Machine.say_nil, pure, EStateM.pure]
  | fail => simp [format, ending, pieces, Machine.say_nil, pure, EStateM.pure]
  | raise location cause =>
    rw [pieces, Machine.say_nil]
    rfl
  | write piece rest ih =>
    have hstep : (Message.write piece rest).format b m = rest.format b (m.write piece) := rfl
    rw [hstep, ih (m := m.write piece) h, m.say_write]
    rfl
  | emit level target message rest _ ih =>
    have hstep : (Message.emit level target message rest).format b m = rest.format b m := by
      simp only [format, bind, EStateM.bind, b.record_locked level target _ h]
    rw [hstep, ih h]
    rfl

namespace Build

/-- Whether a record of that level is dropped. -/
def drops (b : Build) (level : Level) (m : Machine) : Bool :=
  !b.keeps level || m.console.locked

/-- A build for metal keeps the levels that are enabled. -/
theorem keeps_of_metal {b : Build} (h : b.target = .metal) (level : Level) :
    b.keeps level = level.enabled b.checks := by
  rw [keeps, h]
  exact Bool.true_and _

/-- Where the console is free it is the level that decides. -/
theorem drops_of_free (b : Build) {m : Machine} (h : m.console.locked = false) (level : Level) :
    b.drops level m = !b.keeps level := by
  rw [drops, h, Bool.or_false]

/-- **A record in closed form.** -/
theorem log_eq (b : Build) (level : Level) (target : String) (msg : Message) (m : Machine) :
    b.log level target msg m =
      if b.drops level m then .ok () m
      else match msg.ending with
        | .ok _ => .ok () (m.recorded (msg.spoken level target) false)
        | .error fault => .error fault (m.recorded (msg.spoken level target) (!b.unwinds)) := by
  unfold log record
  by_cases hdrop : b.drops level m = true
  · rw [if_pos hdrop]
    exact if_pos hdrop
  · rw [if_neg hdrop]
    refine (if_neg hdrop).trans ?_
    rw [m.openRecord_eq, Message.format_locked b msg rfl]
    cases hend : msg.ending with
    | ok ending =>
      simp [Machine.say, Machine.write, Machine.note, Machine.release, Machine.recorded,
        Message.spoken, hend]
    | error fault =>
      cases hunwind : b.unwinds <;>
        simp [Machine.say, Machine.release, Machine.recorded, Message.spoken, hend]

/-- A record of plain text in closed form. -/
theorem logText_eq (b : Build) (level : Level) (target text : String) (m : Machine) :
    b.logText level target text m =
      if b.drops level m then m
      else m.recorded ((Message.ofText text).spoken level target) false := by
  unfold logText
  rw [log_eq]
  by_cases hdrop : b.drops level m = true
  · rw [if_pos hdrop, if_pos hdrop]
  · rw [if_neg hdrop, if_neg hdrop]
    rfl

/-- Plain text leaves the machine that its record leaves. -/
theorem logText_of_log {P : Machine → Prop} (b : Build) {level : Level} {target text : String}
    {m : Machine} (h : match b.log level target (.ofText text) m with
      | .ok _ n => P n
      | .error _ n => P n) : P (b.logText level target text m) := by
  unfold logText
  cases hrecord : b.log level target (.ofText text) m with
  | ok _ n =>
    rw [hrecord] at h
    exact h
  | error fault n =>
    rw [hrecord] at h
    exact h

/-! ### Nothing else is touched -/

section Frame

variable (b : Build) (level : Level) (target text : String) (m : Machine)

@[simp] theorem flags_logText : (b.logText level target text m).flags = m.flags := by
  rw [logText_eq]
  split <;> rfl

@[simp] theorem memory_logText : (b.logText level target text m).memory = m.memory := by
  rw [logText_eq]
  split <;> rfl

@[simp] theorem stackPointer_logText :
    (b.logText level target text m).stackPointer = m.stackPointer := by
  rw [logText_eq]
  split <;> rfl

end Frame

end Build

end Handoff
