/-
What a checked hand-off looks at before it says that interrupts are masked.

There are two ways to that claim.  A boot CPU that arrives on its stack is asked, and taken
on only if interrupts read as masked.  One that is masked by the hand-off itself is not
asked: the step checks its order and nothing else, so what it claims is as good as the mask
of the processor.  The next one to look is the check before the call of the kernel.  All of
this holds on any platform, also on one whose mask does nothing.
-/
import Handoff.Proofs.Steps
import Handoff.Session.Run

namespace Handoff

/-- What a hand-off on the platform has seen when it goes on with interrupts masked. -/
structure Platform.Vouches {σ : Type} (p : Platform σ) : Prop where
  /-- A boot CPU is resumed exactly if interrupts read as masked. -/
  resume : ∀ top s, Progress.resume p top s =
    if p.interruptsEnabled s then .error .unmaskedOnEntry
    else .ok { stage := .stackEstablished, stackTop := some top }
  /-- Step 1 masks and goes on if it is the first one, and reads nothing. -/
  mask : ∀ w : Walk σ, Boot.maskInterrupts p w =
    let masked := { w with machine := p.maskInterrupts w.machine }
    if w.progress.stage = .init then
      .ok () { masked with progress := { w.progress with stage := .interruptsMasked } }
    else .error (.outOfOrder w.progress.stage.next .interruptsMasked) masked
  /-- Nothing departs for the kernel unless interrupts read as masked. -/
  depart : ∀ address (w v : Walk σ), Boot.depart p address w = .ok () v →
    p.interruptsEnabled w.machine = false

namespace Platform

variable {σ : Type} {p : Platform σ}

theorem vouches (hchecks : p.checks = true) : p.Vouches where
  resume top s := by rw [Progress.resume, hchecks, Bool.true_and]
  mask w := by
    have hnext : w.progress.stage.next = some .interruptsMasked ↔ w.progress.stage = .init := by
      cases w.progress.stage <;> decide
    let masked : Walk σ := { w with machine := p.maskInterrupts w.machine }
    have heq : Boot.maskInterrupts p w = Boot.advance p .interruptsMasked masked := rfl
    by_cases hinit : w.progress.stage = .init
    · have hdue : masked.progress.stage.next = some .interruptsMasked := hnext.2 hinit
      exact heq.trans ((Boot.advance_of_next hdue).trans (if_pos hinit).symm)
    · have hdue : masked.progress.stage.next ≠ some .interruptsMasked := fun h => hinit (hnext.1 h)
      exact heq.trans ((Boot.advance_out_of_order hchecks hdue).trans (if_neg hinit).symm)
  depart address w v h := by
    rcases Boot.depart_cases p w address with ⟨fault, hstop⟩ | ⟨hchecked, -⟩
    · rw [hstop] at h
      cases h
    · exact (hchecked hchecks).1

/-- **Step 1 is as good as the mask.**  A checked hand-off that was resumed, or that departs,
has read interrupts as masked; but one that has masked them itself has not, and so they are
masked after every such step only if masking has its effect on every machine. -/
theorem masks_iff (hchecks : p.checks = true) :
    p.Vouches ∧
      ((∀ w v : Walk σ, Boot.maskInterrupts p w = .ok () v →
          p.interruptsEnabled v.machine = false) ↔
        ∀ s, p.interruptsEnabled (p.maskInterrupts s) = false) := by
  have hvouches := vouches hchecks
  refine ⟨hvouches, fun hmasked s => ?_, fun hmask w v h => ?_⟩
  · exact hmasked ⟨.start, s⟩ _ ((hvouches.mask _).trans (if_pos rfl))
  · rw [hvouches.mask] at h
    split at h
    · cases h
      exact hmask w.machine
    · cases h

/-- The recording processor masks only what can be masked.  The native one of a host process
does not mask at all, and reads every flag as clear. -/
theorem masks_iff_in_host :
    let recording := Build.debug.platform .recording
    let native := Build.debug.platform .native
    recording.checks = true ∧ native.checks = true ∧ recording.Vouches ∧
      ¬(∀ w v, Boot.maskInterrupts recording w = .ok () v →
        recording.interruptsEnabled v.machine = false) ∧
      ∀ w v, Boot.maskInterrupts native w = .ok () v →
        native.interruptsEnabled v.machine = false := by
  intro recording native
  have hrecording := masks_iff (p := recording) rfl
  refine ⟨rfl, rfl, hrecording.1, fun hmasked => ?_, (masks_iff (p := native) rfl).2.2 ?_⟩
  · have hall := hrecording.2.1 hmasked
    have hunmaskable := hall
      { flags := .interruptEnable, memory := .absent, console := .idle true, maskable := false }
    exact absurd hunmaskable (by decide)
  · intro m
    have hread : native.interruptsEnabled (native.maskInterrupts m) =
        Flags.empty.contains .interruptEnable := rfl
    rw [hread]
    decide

end Platform

/-- A checked session goes on as masked on a machine that is not. -/
theorem Session.masked_stage_unmasked :
    let s := powerOn
      { flags := ⟨0x200⟩, memory := .absent, console := .idle true, maskable := false }
    let reports := (s.run .debug .recording [.start, .mask, .askInterrupts]).1
    Build.debug.checks = true ∧
      reports.map Report.answer = [.ok, .ok, .truth true] ∧
      reports.map Report.stage = [some .init, some .interruptsMasked, some .interruptsMasked] := by
  decide

end Handoff
