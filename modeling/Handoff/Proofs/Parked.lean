/-
What the fault handler leaves behind.

The handler masks, reports the fault, and stays in its halt loop, unless formatting the
report raises another fault; then it starts over with that one.  The faults of the hand-off
itself have a plain text for a message, which raises nothing, so for them the handler
is one record on a masked machine and then the loop.
-/
import Handoff.Proofs.Errands

namespace Handoff

/-- The report of a fault ends as the message of the fault does. -/
theorem Fault.ending_notice (f : Fault) : f.notice.ending = f.message.ending := by
  unfold notice
  split <;> rfl

namespace Build

variable (b : Build) (fault : Fault)

/-- The handler, one report at a time. -/
theorem park_eq (wakes : List Bool) (m : Machine) :
    b.park fault wakes m =
      match b.log .error faultTarget fault.notice m.mask with
      | .ok _ n => (b.platform .native).haltLoop wakes n
      | .error nested n => b.park nested wakes n := by
  rw [park]
  split <;> simp_all

/-- The machine on which the handler comes to its loop if the report raises nothing. -/
def reported (m : Machine) : Machine :=
  if b.drops .error m.mask then m.mask
  else m.mask.recorded (fault.notice.spoken .error faultTarget) false

section Frame

variable (m : Machine)

theorem flags_reported : (b.reported fault m).flags = m.mask.flags := by
  unfold reported
  split <;> rfl

theorem memory_reported : (b.reported fault m).memory = m.memory := by
  unfold reported
  split
  · exact m.memory_mask
  · exact m.memory_mask

/-- A report that is not dropped goes out behind the masking. -/
theorem events_reported {m : Machine} (h : b.drops .error m.mask = false) :
    (b.reported fault m).events =
      m.events ++ .mask :: (m.warmUp ++ fault.notice.spoken .error faultTarget) := by
  have hwarm : m.mask.warmUp = m.warmUp := by rw [Machine.warmUp, m.console_mask, Machine.warmUp]
  rw [reported, h, if_neg Bool.false_ne_true, Machine.recorded, m.events_mask, hwarm]
  simp

theorem spoke_reported : m.mask.Spoke (b.reported fault m) := by
  unfold reported
  split
  · exact .silent rfl rfl
  · exact .recorded ..

end Frame

variable {fault}

/-- A fault with a plain message is reported once. -/
theorem park_of_plain {ending : Ending} (h : fault.message.ending = .ok ending)
    (wakes : List Bool) (m : Machine) :
    b.park fault wakes m = (b.platform .native).haltLoop wakes (b.reported fault m) := by
  rw [park_eq, log_eq, fault.ending_notice, h, reported]
  by_cases hdrop : b.drops .error m.mask = true
  · rw [if_pos hdrop, if_pos hdrop]
  · rw [if_neg hdrop, if_neg hdrop]

/-- Neither the report nor the loop after it writes to the memory. -/
theorem memory_park {ending : Ending} (hcpu : b.Faithful .native)
    (h : fault.message.ending = .ok ending) (wakes : List Bool) (m : Machine) :
    (b.park fault wakes m).memory = m.memory := by
  rw [b.park_of_plain h, (Platform.settled_haltLoop hcpu wakes (.refl _)).memory, b.memory_reported]

end Build

end Handoff
