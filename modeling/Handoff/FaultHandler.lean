/-
What an image does with a fault: mask interrupts, report it once, and halt for good.

Nothing unwinds in an image, so a fault raised while a record was being written
leaves the console locked, and the handler's own record is then dropped instead of
waited for.  The report formats the fault's message, which may itself raise a fault;
the handler then starts over with that one.  Every such fault was nested one level
deeper in the message, so the handler comes to its halt loop.
-/
import Handoff.Processor

namespace Handoff

namespace Message

/-- How many places of the message raise a fault, at any depth. -/
def raises : Message → Nat
  | .done | .fail => 0
  | .raise _ cause => cause.raises + 1
  | .write _ rest => rest.raises
  | .emit _ _ message rest => message.raises + rest.raises

/-- A fault raised by formatting was nested in the message. -/
theorem raises_lt_of_format_error {b : Build} (msg : Message) {fault : Fault} {m n : Machine}
    (h : msg.format b m = .error fault n) : fault.message.raises < msg.raises := by
  induction msg generalizing m n with
  | done => simp [format, pure, EStateM.pure] at h
  | fail => simp [format, pure, EStateM.pure] at h
  | raise location cause =>
    cases h
    simp [Fault.message, raises]
  | write piece rest ih => exact ih h
  | emit level target message rest ihMessage ihRest =>
    simp only [format, bind, EStateM.bind] at h
    split at h
    case h_1 => exact Nat.lt_add_left _ (ihRest h)
    case h_2 hrec =>
      simp only [EStateM.Result.error.injEq] at h
      obtain ⟨rfl, rfl⟩ := h
      refine Nat.lt_add_right _ ?_
      unfold Build.record at hrec
      split at hrec
      · cases hrec
      · split at hrec
        · cases hrec
        · rename_i hmsg
          simp only [EStateM.Result.error.injEq] at hrec
          obtain ⟨rfl, -⟩ := hrec
          exact ihMessage hmsg

end Message

/-- What the report of a fault says: where it was raised, if that is known, and why. -/
def Fault.notice (f : Fault) : Message :=
  match f.location with
  | some location => .write (location.text ++ ": ") f.message
  | none => f.message

/-- Naming the place adds no further faults to the message. -/
theorem Fault.raises_notice (f : Fault) : f.notice.raises = f.message.raises := by
  unfold notice
  split <;> rfl

namespace Build

/-- A fault that a record ends in was nested in its message. -/
theorem raises_lt_of_log_error {b : Build} {level : Level} {target : String} {msg : Message}
    {fault : Fault} {m n : Machine} (h : b.log level target msg m = .error fault n) :
    fault.message.raises < msg.raises := by
  unfold log record at h
  split at h
  · cases h
  · split at h
    · cases h
    · rename_i hmsg
      simp only [EStateM.Result.error.injEq] at h
      obtain ⟨rfl, -⟩ := h
      exact msg.raises_lt_of_format_error hmsg

/-- The target of fault reports. -/
def faultTarget : String := "panic"

/-- Handles a fault: masks, reports, and stays in the halt loop, watched for one halt
per entry of `wakes`. -/
def park (b : Build) (fault : Fault) (wakes : List Bool) (m : Machine) : Machine :=
  match h : b.log .error faultTarget fault.notice m.mask with
  | .ok _ m => (b.platform .native).haltLoop wakes m
  | .error nested m =>
    have := fault.raises_notice ▸ raises_lt_of_log_error h
    b.park nested wakes m
termination_by fault.message.raises

end Build

end Handoff
