/-
Diagnostics never influence the hand-off.

A host process throws its records away and the bare machine writes them out.  Steps of the
hand-off report in the middle of what they do, messages do what they like while they are
formatted, and a record may end in a fault: none of it reaches further than the serial port
and the console.  So on the recording processor, which is the same in both places, a session
on the bare machine is the session in the host process and its serial events.  Only a step
that asks for diagnostics itself answers for the build it runs on.
-/
import Handoff.Proofs.Record
import Handoff.Proofs.View

namespace Handoff

namespace Build

/-- The build for a host process. -/
def onHost (b : Build) : Build := { b with target := .host }

/-- The build for the bare machine. -/
def onMetal (b : Build) : Build := { b with target := .metal }

end Build

/-- The view that overlooks the serial port, and takes the console as it was before. -/
def View.withoutRecords (before : Console) : View where
  sees e := !e.isSerial
  console _ := before
  sees_mask := rfl
  sees_halt := rfl
  sees_entry _ _ := rfl

/-! ### Records overlooked -/

namespace View

variable (before : Console) (m : Machine)

theorem withoutRecords_recorded {spoken : List Event}
    (hspoken : ∀ e ∈ spoken, ∃ text, e = .serial text) (locked : Bool) :
    (withoutRecords before).machine (m.recorded spoken locked) =
      (withoutRecords before).machine m := by
  have hunseen : (m.warmUp ++ spoken).filter (withoutRecords before).sees = [] := by
    refine List.filter_eq_nil_iff.2 fun e he => ?_
    have hserial := m.isSerial_of_record hspoken e he
    simp [withoutRecords, hserial]
  have hevents : (m.events ++ m.warmUp ++ spoken).filter (withoutRecords before).sees =
      m.events.filter (withoutRecords before).sees := by
    rw [List.append_assoc, List.filter_append, hunseen, List.append_nil]
  exact congrArg (fun events => { m with console := before, events }) hevents

/-- However a record ends, and whether it is written or not, nothing shows of it. -/
theorem withoutRecords_log (b : Build) (level : Level) (target : String) (msg : Message) :
    match b.log level target msg m with
    | .ok _ n | .error _ n =>
      (withoutRecords before).machine n = (withoutRecords before).machine m := by
  have hspoken : ∀ e ∈ msg.spoken level target, ∃ text, e = .serial text :=
    fun e he => msg.spoken_serial he
  rw [b.log_eq]
  by_cases hdrop : b.drops level m = true
  · rw [if_pos hdrop]
  · rw [if_neg hdrop]
    cases msg.ending with
    | ok ending => exact withoutRecords_recorded before m hspoken _
    | error fault => exact withoutRecords_recorded before m hspoken _

theorem withoutRecords_logText (b : Build) (level : Level) (target text : String) :
    (withoutRecords before).machine (b.logText level target text m) =
      (withoutRecords before).machine m :=
  b.logText_of_log
    (P := fun n => (withoutRecords before).machine n = (withoutRecords before).machine m)
    (withoutRecords_log before m b level target (.ofText text))

end View

namespace Build

variable (b : Build) (level : Level) (target : String) (m : Machine)

/-- A host process drops every record. -/
theorem log_onHost (msg : Message) : b.onHost.log level target msg m = .ok () m := by
  rw [log_eq]
  exact if_pos rfl

theorem logText_onHost (text : String) : b.onHost.logText level target text m = m := by
  rw [logText_eq]
  exact if_pos rfl

end Build

/-- The answer of the step in a host process: no message is formatted for a record, and no
flag reads as set. -/
def Step.answerOnHost : Step → Answer → Answer
  | .log _ _ _, _ => .logged none 0
  | .readFlags, _ => .flags .empty
  | _, answer => answer

namespace View

variable (b : Build) (before : Console)

theorem withoutRecords_tracks :
    (withoutRecords before).Tracks (fun _ _ _ => True) (b.onHost.platform .recording)
      (b.onMetal.platform .recording) := by
  refine (withoutRecords before).tracks_of_faithful (b := b.onHost) (c := b.onMetal)
    (Or.inl rfl) (Or.inl rfl) rfl ?_ ?_
  · intro start length m _
    have hnote := (withoutRecords before).machine_note m (e := .zero start length) rfl
    exact congrArg (Machine.zeroDirectly start length) hnote.symm
  · intro level target text m
    rw [b.logText_onHost, withoutRecords_logText]

/-- Every step in a host process is what shows of it on the bare machine. -/
theorem withoutRecords_step (s : Session) (step : Step) :
    ((withoutRecords before).session s).step b.onHost .recording step =
      (step.answerOnHost (s.step b.onMetal .recording step).1,
        (withoutRecords before).session (s.step b.onMetal .recording step).2) := by
  cases hstep : step.diagnostic with
  | false =>
    have hanswer (answer : Answer) : step.answerOnHost answer = answer := by
      cases step with
      | log level target message => cases hstep
      | readFlags => cases hstep
      | _ => rfl
    rw [hanswer]
    exact session_step (withoutRecords_tracks b before) rfl hstep
      (Step.stores_of_forall (fun _ _ => trivial) step)
  | true =>
    cases step with
    | readFlags => rfl
    | log level target message =>
      have hhost : ((withoutRecords before).session s).emit (b.onHost.log level target message) =
          (.logged none 0, (withoutRecords before).session s) := by
        rw [Session.emit, b.log_onHost]
        exact congrArg (fun count => (Answer.logged none count, _)) (Nat.sub_self _)
      have hmetal : (withoutRecords before).session
          (s.emit (b.onMetal.log level target message)).2 = (withoutRecords before).session s := by
        have hlog := withoutRecords_log before s.machine b.onMetal level target message
        unfold Session.emit
        cases hrecord : b.onMetal.log level target message s.machine with
        | ok _ n =>
          rw [hrecord] at hlog
          exact congrArg (Session.mk s.progress) hlog
        | error fault n =>
          rw [hrecord] at hlog
          exact congrArg (Session.mk s.progress) hlog
      exact hhost.trans (congrArg (Prod.mk (Answer.logged none 0)) hmetal.symm)
    | _ => cases hstep

end View

namespace Session

/-- What a session in a host process and the same one on the bare machine have in common. -/
structure Undisturbed (b : Build) (s : Session) (steps : List Step) : Prop where
  /-- There is a report for every step, in both. -/
  length : (s.run b.onMetal .recording steps).1.length = steps.length
  /-- The reports in the host process are those of the bare machine without the serial events,
  except that a step for diagnostics answers for itself. -/
  reports : (s.run b.onHost .recording steps).1 =
    List.zipWith (fun step r => { r with
        answer := step.answerOnHost r.answer
        events := r.events.filter (!·.isSerial) })
      steps (s.run b.onMetal .recording steps).1
  /-- After each step both have come equally far. -/
  progress (n : Nat) : (s.run b.onHost .recording (steps.take n)).2.progress =
    (s.run b.onMetal .recording (steps.take n)).2.progress
  /-- After each step both have the same flags. -/
  flags (n : Nat) : (s.run b.onHost .recording (steps.take n)).2.machine.flags =
    (s.run b.onMetal .recording (steps.take n)).2.machine.flags
  /-- After each step both have the same memory. -/
  memory (n : Nat) : (s.run b.onHost .recording (steps.take n)).2.machine.memory =
    (s.run b.onMetal .recording (steps.take n)).2.machine.memory

/-- **Diagnostics disturb no session**, whatever its steps, its messages and the state of the
console, in checked and unchecked builds alike. -/
theorem run_undisturbed (b : Build) (s : Session) (steps : List Step) :
    Undisturbed b s steps := by
  have hshown (taken : List Step) :=
    View.run_shown (v := .withoutRecords s.machine.console) (s := s) Step.answerOnHost rfl taken
      fun step _ t _ => View.withoutRecords_step b s.machine.console t step
  have heq (n : Nat) := View.shown_eq (hshown (steps.take n)).2
  exact
    { length := s.length_run b.onMetal .recording steps
      reports := (hshown steps).1
      progress := fun n => (heq n).1
      flags := fun n => (heq n).2.1
      memory := fun n => (heq n).2.2.1 }

/-- A message that emits a record and then raises a fault, in the middle of a hand-off. -/
example :
    let s := powerOn { flags := ⟨0x202⟩, memory := .absent, console := .idle false }
    let steps : List Step :=
      [.start, .mask, .log .error "a" (.emit .warn "b" .fail (.raise none (.ofText "c"))),
        .readFlags]
    (s.run Build.debug.onHost .recording steps).1.map Report.answer =
        [.ok, .ok, .logged none 0, .flags .empty] ∧
      (s.run Build.debug.onMetal .recording steps).1.map Report.answer =
        [.ok, .ok, .logged (some (.raised none (.ofText "c"))) 1, .flags ⟨0⟩] := by
  decide

end Session

end Handoff
