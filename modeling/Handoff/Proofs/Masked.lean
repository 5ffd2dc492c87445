/-
No kernel is entered with interrupts enabled.

Interrupts can come back at any time: an action may set the flag, a halt may wake with
it set, and on some machines masking has no effect.  None of that matters, because the
check stands right before the call.  Between the two the hand-off only notes its stage
and writes a record, and neither touches the flag word.  So the history of a session in
a checked build shows no entry with interrupts enabled, whatever is done in whatever
order, and also after steps that ended in a fault.

The host's native processor is left out for a reason: it reads every flag as clear, so
there the check says nothing about the machine.
-/
import Handoff.Proofs.Kept

namespace Handoff

/-- Every entry of the kernel in the history found interrupts masked. -/
def Machine.EntersMasked (m : Machine) : Prop :=
  ∀ enabled nonzero, Event.entry enabled nonzero ∈ m.events → enabled = false

namespace Machine.EntersMasked

variable {m : Machine}

/-- Nothing but an entry has to be looked at. -/
theorem append {n : Machine} {es : List Event} (hm : m.EntersMasked)
    (hevents : n.events = m.events ++ es)
    (hes : ∀ enabled nonzero, Event.entry enabled nonzero ∈ es → enabled = false) :
    n.EntersMasked := by
  intro enabled nonzero hmem
  rw [hevents, List.mem_append] at hmem
  rcases hmem with hold | hnew
  · exact hm enabled nonzero hold
  · exact hes enabled nonzero hnew

theorem note (hm : m.EntersMasked) {e : Event} (he : ∀ enabled nonzero, e ≠ .entry enabled nonzero) :
    (m.note e).EntersMasked := by
  apply hm.append rfl
  intro enabled nonzero hmem
  exact absurd (List.mem_singleton.1 hmem).symm (he enabled nonzero)

theorem recorded (hm : m.EntersMasked) {spoken : List Event}
    (hspoken : ∀ e ∈ spoken, ∃ text, e = .serial text) (locked : Bool) :
    (m.recorded spoken locked).EntersMasked := by
  apply hm.append (List.append_assoc ..)
  intro enabled nonzero hmem
  exact absurd (m.isSerial_of_record hspoken _ hmem) Bool.false_ne_true

theorem enterKernel (hm : m.EntersMasked) (hmasked : m.interruptsEnabled = false) :
    m.enterKernel.EntersMasked := by
  apply hm.append rfl
  intro enabled nonzero hmem
  cases List.mem_singleton.1 hmem
  exact hmasked

/-- All that a session does on a faithful platform in a checked build keeps it. -/
theorem kept {b : Build} (hchecks : b.checks = true) {cpu : Processor} (hcpu : b.Faithful cpu) :
    Machine.Kept b cpu EntersMasked := by
  apply Machine.Kept.of_history
  · intro m n hevents _ hm enabled nonzero hmem
    rw [hevents] at hmem
    exact hm enabled nonzero hmem
  · intro e m horder hm
    apply hm.note
    rintro enabled nonzero rfl
    cases horder
  · intro spoken locked m hspoken hm
    exact hm.recorded hspoken locked
  · intro m hm hmasked
    apply hm.enterKernel
    rw [← hcpu.interruptsEnabled_eq m]
    exact hmasked hchecks

end Machine.EntersMasked

/-- **The kernel is entered with interrupts masked**, in every session of a checked build
on a processor whose reading of the flag is the flag. -/
theorem Session.kernel_entered_masked {b : Build} (hchecks : b.checks = true) {cpu : Processor}
    (hcpu : b.Faithful cpu) (s : Session) (steps : List Step) :
    ∀ r ∈ (s.run b cpu steps).1, ∀ enabled nonzero,
      Event.entry enabled nonzero ∈ r.events → enabled = false := by
  induction steps generalizing s with
  | nil =>
    intro r hr
    cases hr
  | cons step steps ih =>
    -- each step starts on a clean history, so its own entries are all there is to see
    have hclean : s.clearEvents.machine.EntersMasked := by
      intro enabled nonzero hmem
      cases hmem
    have hstep := step_keeps (Machine.EntersMasked.kept hchecks hcpu) s.clearEvents step hclean
    intro r hr
    rcases List.mem_cons.1 hr with rfl | hrest
    · exact hstep
    · exact ih _ r hrest

/-- Interrupts are enabled once more right before the call, on a processor that a halt
also wakes with interrupts enabled; the call is refused, and made after masking again. -/
def Session.unmaskedBeforeCall : List Step :=
  [.start, .mask, .establish 0x8008, .zeroFill (.raw 0x1000 0x1000), .act .enableInterrupts,
    .transfer 0x2000 [], .haltProcessor (some true), .transfer 0x2000 [], .maskProcessor,
    .transfer 0x2000 [.enableInterrupts]]

theorem Session.kernel_entered_masked_after_refusal :
    let reports := ((Session.powerOn
      { flags := ⟨0x202⟩, memory := .absent, console := .idle false }).run
        .metalDebug .native unmaskedBeforeCall).1
    (∃ r ∈ reports, r.answer = .fault .unmaskedAtTransfer) ∧
      (∃ r ∈ reports, Event.entry false 0 ∈ r.events) ∧
      ∀ r ∈ reports, ∀ enabled nonzero, Event.entry enabled nonzero ∈ r.events →
        enabled = false :=
  ⟨by decide, by decide, kernel_entered_masked rfl (Or.inr rfl) _ _⟩

end Handoff
