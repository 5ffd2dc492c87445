/-
The native processor of the bare machine does what the recording one shows.

Hand-offs are tried out on the recording processor, and what is found there is meant for the
native one.  On the bare machine they differ in three places.  The recording processor notes
what it is asked to zero; it zeroes with one write where the native one runs the string
store; and it reads the interrupt flag off the whole word, where the native one drops the
unknown bits first.  Through a view that overlooks the noted zeroing nothing of this is left,
as long as a session zeroes only what lies in the memory: every session answers alike on
both, fault for fault, and leaves the same machine.
-/
import Handoff.Proofs.Logged
import Handoff.Proofs.View
import Handoff.Proofs.Zeroing

namespace Handoff

/-- Whether the event tells what was to be zeroed. -/
def Event.isZero : Event → Bool
  | zero _ _ => true
  | _ => false

theorem Event.isZero_of_isSerial {e : Event} (h : e.isSerial = true) : e.isZero = false := by
  cases e with
  | zero start length => cases h
  | _ => rfl

/-- What is to be zeroed is not said on the serial port. -/
theorem Event.serialText_withoutZeros (es : List Event) :
    serialText (es.filter (!·.isZero)) = serialText es := by
  have hserial : (fun e : Event => e.isSerial && !e.isZero) = isSerial := by
    funext e
    cases h : e.isSerial with
    | false => rfl
    | true => rw [isZero_of_isSerial h]; rfl
  rw [← serialText_filter, List.filter_filter, hserial, serialText_filter]

/-- The view that overlooks what was to be zeroed, and nothing else. -/
def View.withoutZeros : View where
  sees e := !e.isZero
  console c := c
  sees_mask := rfl
  sees_halt := rfl
  sees_entry _ _ := rfl

/-! ### Zeroing within the memory -/

/-- Whatever the step zeroes lies in the memory: the bounds of a span are in order and all
bytes between them are there, and a number of bytes from an address on ends before the
addresses do. -/
def Step.Within (m : Memory) : Step → Prop
  | .zeroFill extent | .run extent _ _ _ =>
    ∀ span, extent.span m = .ok span → span.start ≤ span.stop ∧ m.Writable span
  | .zeroBytes address length =>
    length ≠ 0 → address.toNat + length.toNat ≤ UInt64.size ∧ m.Holds address length.toNat
  | _ => True

namespace Memory.SameFrame

variable {m n : Memory} (h : m.SameFrame n)
include h

theorem holds_iff (a : UInt64) (count : Nat) : m.Holds a count ↔ n.Holds a count := by
  rw [Holds, Holds, h.1, h.2]

theorem writable_iff (span : Span) : m.Writable span ↔ n.Writable span := by
  simp only [Writable, Memory.byte?_isSome, h.1, h.2]

theorem span_eq (extent : Extent) : extent.span m = extent.span n := by
  cases extent with
  | bounds start stop => rfl
  | raw start stop => rfl
  | part first last => rw [Extent.span, Extent.span, h.1]

/-- What a step zeroes lies in a memory wherever that is filled. -/
theorem within_iff (step : Step) : step.Within m ↔ step.Within n := by
  cases step <;> simp only [Step.Within, h.holds_iff, h.writable_iff, h.span_eq]

end Memory.SameFrame

/-- The bytes to zero, if there are any, lie in the memory of the machine. -/
def Machine.Zeroable (start length : UInt64) (m : Machine) : Prop :=
  length ≠ 0 → start.toNat + length.toNat ≤ UInt64.size ∧ m.memory.Holds start length.toNat

theorem Step.Within.stores {step : Step} {m : Machine} (h : step.Within m.memory) :
    step.Stores Machine.Zeroable m := by
  have hspan {extent : Extent}
      (hextent : ∀ span, extent.span m.memory = .ok span →
        span.start ≤ span.stop ∧ m.memory.Writable span)
      (span : Span) (hsome : extent.span m.memory = .ok span) (hempty : span.isEmpty = false) :
      m.Zeroable span.start (span.stop - span.start) := by
    obtain ⟨hle, hwritable⟩ := hextent span hsome
    have hne : span.start ≠ span.stop := by simpa [Span.isEmpty] using hempty
    have hlt : span.start < span.stop := UInt64.lt_of_le_of_ne hle hne
    have hcount := UInt64.toNat_sub_of_le _ _ hle
    have hle' := UInt64.le_iff_toNat_le.1 hle
    have hstop := span.stop.toNat_lt_size
    exact fun _ => ⟨by omega, (Memory.writable_iff hlt).1 hwritable⟩
  cases step with
  | zeroFill extent => exact hspan h
  | run extent address actions wakes => exact hspan h
  | zeroBytes address length => exact h
  | _ => trivial

/-! ### The two processors -/

namespace View

variable (m : Machine)

/-- One record on both machines. -/
theorem withoutZeros_recorded {spoken : List Event}
    (hspoken : ∀ e ∈ spoken, ∃ text, e = .serial text) (locked : Bool) :
    (withoutZeros.machine m).recorded spoken locked =
      withoutZeros.machine (m.recorded spoken locked) := by
  have hseen : (m.warmUp ++ spoken).filter withoutZeros.sees = m.warmUp ++ spoken := by
    refine List.filter_eq_self.2 fun e he => ?_
    have hzero := Event.isZero_of_isSerial (m.isSerial_of_record hspoken e he)
    simp [withoutZeros, hzero]
  have hwarm : (withoutZeros.machine m).warmUp = m.warmUp := rfl
  have hevents : m.events.filter withoutZeros.sees ++ m.warmUp ++ spoken =
      (m.events ++ m.warmUp ++ spoken).filter withoutZeros.sees := by
    rw [List.append_assoc, List.append_assoc, List.filter_append, hseen]
  rw [Machine.recorded, hwarm]
  exact congrArg (fun events => { withoutZeros.machine (m.recorded spoken locked) with events })
    hevents

variable (b : Build)

/-- A record shows all of itself. -/
theorem withoutZeros_log (level : Level) (target : String) (msg : Message) :
    b.log level target msg (withoutZeros.machine m) =
      match b.log level target msg m with
      | .ok a n => .ok a (withoutZeros.machine n)
      | .error fault n => .error fault (withoutZeros.machine n) := by
  have hdrops : b.drops level (withoutZeros.machine m) = b.drops level m := rfl
  have hspoken : ∀ e ∈ msg.spoken level target, ∃ text, e = .serial text :=
    fun e he => msg.spoken_serial he
  rw [b.log_eq, b.log_eq, hdrops]
  by_cases hdrop : b.drops level m = true
  · rw [if_pos hdrop, if_pos hdrop]
  · rw [if_neg hdrop, if_neg hdrop]
    cases msg.ending with
    | ok ending => exact congrArg (EStateM.Result.ok ()) (withoutZeros_recorded m hspoken _)
    | error fault => exact congrArg (EStateM.Result.error fault) (withoutZeros_recorded m hspoken _)

theorem withoutZeros_logText (level : Level) (target text : String) :
    b.logText level target text (withoutZeros.machine m) =
      withoutZeros.machine (b.logText level target text m) := by
  unfold Build.logText
  rw [withoutZeros_log]
  cases b.log level target (.ofText text) m <;> rfl

variable {b} (hmetal : b.target = .metal)
include hmetal

/-- The string store is the one write that the recording processor notes. -/
theorem withoutZeros_zero {start length : UInt64} (h : m.Zeroable start length) :
    (b.platform .native).zeroBytes start length (withoutZeros.machine m) =
      withoutZeros.machine ((b.platform .recording).zeroBytes start length m) := by
  have hstore : m.memory.storeString start 0 length.toNat = m.memory.fill start length.toNat 0 := by
    by_cases hzero : length = 0
    · rw [hzero]
      exact (m.memory.fill_zero start 0).symm
    · obtain ⟨hword, hholds⟩ := h hzero
      exact Memory.storeString_eq_fill hholds hword 0
  have hnative : (b.platform .native).zeroBytes = Machine.zeroByStringStore := by
    rw [Build.platform, hmetal]
  have hnote : withoutZeros.machine (m.note (.zero start length)) = withoutZeros.machine m :=
    withoutZeros.machine_note_overlooked m rfl
  have hrecording : withoutZeros.machine ((b.platform .recording).zeroBytes start length m) =
      (withoutZeros.machine (m.note (.zero start length))).zeroDirectly start length := rfl
  rw [hnative, hrecording, hnote]
  exact congrArg (fun memory => { withoutZeros.machine m with memory }) hstore

theorem withoutZeros_tracks :
    withoutZeros.Tracks Machine.Zeroable (b.platform .native) (b.platform .recording) :=
  withoutZeros.tracks_of_faithful (Or.inr hmetal) (Or.inl rfl) rfl
    (fun _ _ m h => withoutZeros_zero m hmetal h)
    fun level target text m => withoutZeros_logText m b level target text

/-- Every step answers alike on both. -/
theorem withoutZeros_step (s : Session) {step : Step} (h : step.Within s.machine.memory) :
    (withoutZeros.session s).step b .native step =
      ((s.step b .recording step).1, withoutZeros.session (s.step b .recording step).2) := by
  have hstops : b.stops .native = b.stops .recording := by simp [Build.stops, hmetal]
  cases hstep : step.diagnostic with
  | false => exact session_step (withoutZeros_tracks hmetal) hstops hstep h.stores
  | true =>
    cases step with
    | readFlags => rfl
    | log level target message =>
      have hlog := withoutZeros_log s.machine b level target message
      have hmachine : (withoutZeros.session s).machine = withoutZeros.machine s.machine := rfl
      simp only [Session.step, Session.emit, hmachine, hlog]
      cases b.log level target message s.machine <;> rfl
    | _ => cases hstep

end View

namespace Session

/-- What the two processors show of one session. -/
structure Mirrored (native recording : List Report × Session) : Prop where
  /-- The reports are the same but for what was to be zeroed: the answers, the stages, the
  stack tops and the flags, and all other events in their order. -/
  reports : native.1 = recording.1.map View.withoutZeros.report
  text : Event.serialText (native.1.flatMap Report.events) =
    Event.serialText (recording.1.flatMap Report.events)
  progress : native.2.progress = recording.2.progress
  flags : native.2.machine.flags = recording.2.machine.flags
  memory : native.2.machine.memory = recording.2.machine.memory
  console : native.2.machine.console = recording.2.machine.console

/-- **The native processor mirrors the recording one** in every session on the bare machine
that zeroes within the memory, and both read the interrupt flag as bit 9 of the flag word. -/
theorem run_mirrored {b : Build} (hmetal : b.target = .metal) (s : Session) {steps : List Step}
    (hwithin : ∀ step ∈ steps, step.Within s.machine.memory) :
    Mirrored (s.run b .native steps) (s.run b .recording steps) ∧
      ∀ m : Machine, (b.platform .native).interruptsEnabled m = m.flags.bit 9 ∧
        (b.platform .recording).interruptsEnabled m = m.flags.bit 9 := by
  have hshown := View.run_shown (v := .withoutZeros) (s := s) (fun _ answer => answer) rfl steps
    fun step hstep t ht => View.withoutZeros_step hmetal t
      ((ht.within_iff step).2 (hwithin step hstep))
  obtain ⟨hreports, hend⟩ := hshown
  obtain ⟨hprogress, hflags, hmemory, hconsole⟩ := View.shown_eq hend
  rw [View.zipWith_report] at hreports
  refine ⟨⟨hreports, ?_, hprogress, hflags, hmemory, hconsole⟩,
    fun m => ⟨?_, m.flags.contains_interruptEnable⟩⟩
  · have hshows : ((s.run b .recording steps).1.map View.withoutZeros.report).flatMap Report.events =
        ((s.run b .recording steps).1.flatMap Report.events).filter (!·.isZero) := by
      rw [List.flatMap_map, List.filter_flatMap]
      rfl
    rw [hreports, hshows, Event.serialText_withoutZeros]
  · rw [Build.Faithful.interruptsEnabled_eq (Or.inr hmetal)]
    exact m.flags.contains_interruptEnable

/-- Zeroing up to the last address, a fault for a step out of order and one for a mask that
does not hold, a record, and a boot that wakes unmasked. -/
def zeroing : List Step :=
  [.zeroBytes 0xFFFFFFFFFFFFFFF8 8, .start, .zeroFill (.raw 0xFFFFFFFFFFFFFFF1 0xFFFFFFFFFFFFFFF3),
    .mask, .askInterrupts, .resume 0x8008, .log .info "a" (.write "x" .fail),
    .act (.setFlags ⟨0xFFFF000000000002⟩), .askInterrupts, .resume 0x8008,
    .run (.part 4 6) 0x2000 [.enableInterrupts] [true, false]]

theorem run_mirrored_zeroing :
    let m : Machine := { flags := ⟨0xFFFF000000000202⟩
                         memory := ⟨0xFFFFFFFFFFFFFFF0, Array.replicate 16 7⟩
                         console := .idle false, maskable := false }
    let native := (powerOn m).run .metalDebug .native zeroing
    let recording := (powerOn m).run .metalDebug .recording zeroing
    Build.metalDebug.target = .metal ∧ (∀ step ∈ zeroing, step.Within m.memory) ∧
      native.1 ≠ recording.1 ∧ Mirrored native recording ∧
      (Build.metalDebug.platform .native).interruptsEnabled m = m.flags.bit 9 := by
  intro m native recording
  have hspan (span : Span) (hlt : span.start < span.stop)
      (hholds : m.memory.Holds span.start (span.stop - span.start).toNat) :
      span.start ≤ span.stop ∧ m.memory.Writable span :=
    ⟨UInt64.le_of_lt hlt, (Memory.writable_iff hlt).2 hholds⟩
  have hwithin : ∀ step ∈ zeroing, step.Within m.memory := by
    simp only [zeroing, List.forall_mem_cons]
    refine ⟨fun _ => by decide, trivial, ?_, trivial, trivial, trivial, trivial, trivial, trivial,
      trivial, ?_, fun _ hnone => nomatch hnone⟩
    · rintro span ⟨⟩
      exact hspan _ (by decide) (by decide)
    · rintro span ⟨⟩
      exact hspan _ (by decide) (by decide)
  have hall := run_mirrored (b := .metalDebug) rfl (powerOn m) hwithin
  exact ⟨rfl, hwithin, by decide, hall.1, (hall.2 m).1⟩

end Session

end Handoff
