/-
The serial port is initialised once.

The initialisations in the history and the one that a cold console is still waiting for
are the same number together, whatever happens: only a record initialises the port, and
it does so exactly when the console is cold and leaves it warm.  So a session on a warm
console initialises nothing, and one on a cold console once or, if it never gets to a
record, not at all.
-/
import Handoff.Proofs.Kept

namespace Handoff

/-- Whether the event is an initialisation of the port. -/
def Event.isInit : Event → Bool
  | serialInit _ => true
  | _ => false

/-- How many initialisations the console is still waiting for. -/
def Console.due (c : Console) : Nat :=
  if c.ready then 0 else 1

namespace Machine

/-- The initialisations seen and the one still due are so many together. -/
def Inits (k : Nat) (m : Machine) : Prop :=
  m.events.countP Event.isInit + m.console.due = k

namespace Inits

variable {k : Nat} {m : Machine}

theorem note (hm : m.Inits k) {e : Event} (he : e.isInit = false) : (m.note e).Inits k := by
  unfold Inits at *
  rw [← hm]
  simp [Machine.note, List.countP_append, he]

theorem countP_warmUp (m : Machine) : m.warmUp.countP Event.isInit = m.console.due := by
  unfold warmUp Console.due
  split <;> rfl

/-- A record pays what was due. -/
theorem recorded (hm : m.Inits k) {spoken : List Event}
    (hspoken : ∀ e ∈ spoken, ∃ text, e = .serial text) (locked : Bool) :
    (m.recorded spoken locked).Inits k := by
  have hsaid : spoken.countP Event.isInit = 0 := by
    rw [List.countP_eq_zero]
    intro e he
    obtain ⟨text, rfl⟩ := hspoken e he
    exact Bool.false_ne_true
  unfold Inits at *
  rw [← hm, ← countP_warmUp m]
  simp [Machine.recorded, List.countP_append, hsaid, Console.due]

theorem kept (b : Build) (cpu : Processor) (k : Nat) : Machine.Kept b cpu (Inits k) := by
  apply Machine.Kept.of_history
  · intro m n hevents hconsole hm
    unfold Inits
    rw [hevents, hconsole]
    exact hm
  · intro e m horder hm
    apply hm.note
    cases e <;> first | rfl | cases horder
  · intro spoken locked m hspoken hm
    exact hm.recorded hspoken locked
  · intro m hm _
    exact hm.note rfl

end Inits

end Machine

/-- **The port is initialised once**: a session sees as many initialisations as its
console stops waiting for. -/
theorem Session.inits_run (b : Build) (cpu : Processor) (s : Session) (steps : List Step) :
    ((s.run b cpu steps).1.flatMap Report.events).countP Event.isInit +
        (s.run b cpu steps).2.machine.console.due = s.machine.console.due := by
  induction steps generalizing s with
  | nil => exact Nat.zero_add _
  | cons step steps ih =>
    have hclean : s.clearEvents.machine.Inits s.machine.console.due := Nat.zero_add _
    have hstep := step_keeps (Machine.Inits.kept b cpu _) s.clearEvents step hclean
    have hrest := ih (s.clearEvents.step b cpu step).2
    unfold Machine.Inits at hstep
    rw [← hstep, ← hrest]
    simp only [run, report, List.flatMap_cons, List.countP_append]
    omega

end Handoff
