/-
What the small operations keep, every session keeps.

A session reaches its machine through few operations: it masks, halts, zeroes, writes
records, lets actions happen and enters the kernel.  `Kept` asks of a property of the
machine that each of these keeps it; `step_keeps` concludes that every step does,
whichever it is and however it ends.  Entering the kernel is the one operation with a
guard: in a checked build it is only ever reached with interrupts read as masked, and
`transfer_keeps` is where that is shown to survive the record in between.
-/
import Handoff.Proofs.Processor
import Handoff.Proofs.Steps
import Handoff.Session.Run

namespace Handoff

namespace Boot

variable {σ α β : Type}

/-- The operation leaves a property of the machine true, however it ends. -/
def Keeps (I : σ → Prop) (op : Boot σ α) : Prop :=
  ∀ w, I w.machine → match op w with
    | .ok _ v => I v.machine
    | .error _ v => I v.machine

variable {I : σ → Prop}

theorem Keeps.bind {x : Boot σ α} {f : α → Boot σ β} (hx : x.Keeps I)
    (hf : ∀ a, (f a).Keeps I) : (x >>= f).Keeps I := by
  intro w hw
  have hleft := hx w hw
  cases h : x w with
  | ok a v =>
    rw [h] at hleft
    rw [bind_of_ok h]
    exact hf a v hleft
  | error fault v =>
    rw [h] at hleft
    rw [bind_of_error h]
    exact hleft

theorem keeps_onMachine {f : σ → σ} (hf : ∀ m, I m → I (f m)) : (onMachine f).Keeps I := by
  intro w hw
  exact hf w.machine hw

theorem keeps_advance (p : Platform σ) (taken : Stage) : (advance p taken).Keeps I := by
  intro w hw
  rw [advance_eq]
  by_cases h : (p.checks && w.progress.stage.next != some taken) = true
  · rw [if_pos h]
    exact hw
  · rw [if_neg h]
    exact hw

end Boot

/-! ### The steps of the hand-off -/

/-- The operations of a platform leave a property of the machine true. -/
structure Platform.Keeps {σ : Type} (p : Platform σ) (I : σ → Prop) : Prop where
  mask : ∀ m, I m → I (p.maskInterrupts m)
  halt : ∀ wake m, I m → I (p.halt wake m)
  zero : ∀ start length m, I m → I (p.zeroBytes start length m)
  report : ∀ level target text m, I m → I (p.report level target text m)

namespace Boot

variable {σ : Type} {p : Platform σ} {I : σ → Prop}

theorem keeps_maskInterrupts (h : p.Keeps I) : (maskInterrupts p).Keeps I :=
  (keeps_onMachine h.mask).bind fun _ => keeps_advance p _

theorem keeps_establishStack (top : StackTop) : (establishStack p top).Keeps I := by
  intro w hw
  rw [establishStack_eq]
  exact keeps_advance p _ _ hw

theorem keeps_report (h : p.Keeps I) (level : Level) (text : String) :
    (report p level text).Keeps I :=
  keeps_onMachine (h.report level target text)

theorem keeps_zeroFill (h : p.Keeps I) (span : Span) : (zeroFill p span).Keeps I := by
  intro w hw
  rcases zeroFill_cases p w span with hstop | hgo
  · rw [hstop]
    exact hw
  · have hzeroed : I (p.zeroed span w.machine) := by
      unfold Platform.zeroed
      split
      · exact hw
      · exact h.zero _ _ _ hw
    rw [hgo]
    exact (keeps_advance p _).bind (fun _ => keeps_report h _ _) _ hzeroed

theorem keeps_halt (h : p.Keeps I) (wakes : List Bool) : (halt p wakes).Keeps I := by
  have hloop : ∀ m, I m → I (p.haltLoop wakes m) := by
    unfold Platform.haltLoop
    induction wakes with
    | nil =>
      intro m hm
      exact hm
    | cons wake wakes ih =>
      intro m hm
      exact ih _ (h.halt wake _ (h.mask m hm))
  exact (keeps_advance p _).bind fun _ => (keeps_report h _ _).bind fun _ => keeps_onMachine hloop

/-- The kernel's own part of a transfer may rely on the check before it. -/
theorem keeps_transfer (h : p.Keeps I) {kernel : Kernel σ}
    (hreport : ∀ level target text m,
      p.interruptsEnabled (p.report level target text m) = p.interruptsEnabled m)
    (hkernel : ∀ m, I m → (p.checks = true → p.interruptsEnabled m = false) →
      match kernel.code m with
      | .ok _ n => I n
      | .error _ n => I n) :
    (transfer p kernel).Keeps I := by
  intro w hw
  rcases depart_cases p w kernel.address with ⟨fault, hstop⟩ | ⟨hchecked, hgo⟩
  · rw [transfer, bind_of_error hstop]
    exact hw
  · have hleft := hkernel (p.report .info target (departText kernel.address) w.machine)
      (h.report _ _ _ _ hw) fun hp => by rw [hreport, (hchecked hp).1]
    rw [transfer, bind_of_ok hgo]
    cases hcode : kernel.code (p.report .info target (departText kernel.address) w.machine) with
    | ok _ s =>
      rw [call_of_ok hcode]
      rw [hcode] at hleft
      exact hleft
    | error fault s =>
      rw [call_of_error hcode]
      rw [hcode] at hleft
      exact hleft

theorem keeps_run {kernel : Kernel σ} (h : p.Keeps I) (htransfer : (transfer p kernel).Keeps I)
    (span : Span) (wakes : List Bool) : (run p span kernel wakes).Keeps I :=
  (keeps_zeroFill h span).bind fun _ => htransfer.bind fun _ => keeps_halt h wakes

end Boot

/-! ### Sessions -/

/-- The operations that a session has on its machine leave a property true. -/
structure Machine.Kept (b : Build) (cpu : Processor) (I : Machine → Prop) : Prop where
  mask : ∀ m, I m → I ((b.platform cpu).maskInterrupts m)
  halt : ∀ wake m, I m → I ((b.platform cpu).halt wake m)
  zero : ∀ start length m, I m → I ((b.platform cpu).zeroBytes start length m)
  record : ∀ spoken locked m, (∀ e ∈ spoken, ∃ text, e = .serial text) → I m →
    I (m.recorded spoken locked)
  act : ∀ action m, I m → I (m.act action)
  /-- The kernel is entered with interrupts read as masked, if the build checks. -/
  enter : ∀ m, I m → (b.checks = true → (b.platform cpu).interruptsEnabled m = false) →
    I m.enterKernel

/-- Whether the event is an order that a processor carried out. -/
def Event.isOrder : Event → Bool
  | mask | halt | zero _ _ => true
  | _ => false

namespace Machine.Kept

variable {b : Build} {cpu : Processor} {I : Machine → Prop}

/-- Of a property of the history and the console only the events have to be checked. -/
theorem of_history
    (hsame : ∀ m n, n.events = m.events → n.console = m.console → I m → I n)
    (hnote : ∀ e m, e.isOrder = true → I m → I (m.note e))
    (hrecord : ∀ spoken locked m, (∀ e ∈ spoken, ∃ text, e = .serial text) → I m →
      I (m.recorded spoken locked))
    (henter : ∀ m, I m → (b.checks = true → (b.platform cpu).interruptsEnabled m = false) →
      I m.enterKernel) : Kept b cpu I where
  mask m hm := by
    rcases b.maskInterrupts_cases cpu with hmask | hmask
    · rw [hmask]
      exact hsame (m.note .mask) _ m.events_mask m.console_mask (hnote .mask m rfl hm)
    · rw [hmask]
      exact hm
  halt wake m hm := by
    rcases b.halt_cases cpu with hhalt | hhalt
    · rw [hhalt]
      exact hsame (m.note .halt) _ (m.events_halt wake) (m.console_halt wake)
        (hnote .halt m rfl hm)
    · rw [hhalt]
      exact hm
  zero start length m hm := by
    rcases b.zeroBytes_cases cpu start length with hzero | hzero | hzero
    · rw [hzero]
      exact hsame (m.note (.zero start length)) _ rfl rfl (hnote _ m rfl hm)
    · rw [hzero]
      exact hsame m _ rfl rfl hm
    · rw [hzero]
      exact hsame m _ rfl rfl hm
  record := hrecord
  act action m hm := by
    refine hsame m _ ?_ ?_ hm
    · cases action <;> rfl
    · cases action <;> rfl
  enter := henter

theorem log (h : Kept b cpu I) (level : Level) (target : String) (msg : Message) {m : Machine}
    (hm : I m) : match b.log level target msg m with
      | .ok _ n => I n
      | .error _ n => I n := by
  have hserial (locked : Bool) : I (m.recorded (msg.spoken level target) locked) :=
    h.record _ locked m (fun _ he => msg.spoken_serial he) hm
  rw [b.log_eq]
  by_cases hdrop : b.drops level m = true
  · rw [if_pos hdrop]
    exact hm
  · rw [if_neg hdrop]
    cases msg.ending with
    | ok ending => exact hserial false
    | error fault => exact hserial _

theorem platform (h : Kept b cpu I) : (b.platform cpu).Keeps I where
  mask := h.mask
  halt := h.halt
  zero := h.zero
  report level target text m hm := by
    rw [b.report_platform]
    exact b.logText_of_log (h.log level target (.ofText text) hm)

theorem transfer (h : Kept b cpu I) (address : UInt64) (actions : List Action) :
    (Boot.transfer (b.platform cpu) (.ofActions address actions)).Keeps I := by
  refine Boot.keeps_transfer h.platform (b.interruptsEnabled_report cpu) fun m hm hmasked => ?_
  rw [b.checks_platform] at hmasked
  show I (actions.foldl Machine.act m.enterKernel)
  have henter := h.enter m hm hmasked
  generalize m.enterKernel = entered at henter
  induction actions generalizing entered with
  | nil => exact henter
  | cons action actions ih => exact ih _ (h.act action entered henter)

end Machine.Kept

namespace Session

variable {b : Build} {cpu : Processor} {I : Machine → Prop}

theorem walk_keeps {step : Boot Machine Unit} (hstep : step.Keeps I) (s : Session) (done : Answer)
    (last : Bool) (hs : I s.machine) : I (s.walk done last step).2.machine := by
  unfold walk
  cases s.progress with
  | none => exact hs
  | some progress =>
    have hleft := hstep { progress, machine := s.machine } hs
    simp only
    cases hrun : step { progress, machine := s.machine } with
    | ok _ w =>
      rw [hrun] at hleft
      exact hleft
    | error cause w =>
      rw [hrun] at hleft
      exact hleft

theorem walkOver_keeps {step : Span → Boot Machine Unit} (hstep : ∀ span, (step span).Keeps I)
    (s : Session) (extent : Extent) (done : Answer) (last : Bool) (hs : I s.machine) :
    I (s.walkOver extent done last step).2.machine := by
  unfold walkOver
  split
  · exact hs
  · exact hs
  · exact walk_keeps (hstep _) s done last hs

/-- An emitted record leaves the session its machine. -/
theorem emit_of_record {P : Machine → Prop} {s : Session} {record : EStateM Fault Machine Unit}
    (h : match record s.machine with
      | .ok _ n => P n
      | .error _ n => P n) : P (s.emit record).2.machine := by
  unfold emit
  cases hrecord : record s.machine with
  | ok _ n =>
    rw [hrecord] at h
    exact h
  | error cause n =>
    rw [hrecord] at h
    exact h

/-- **Every step of a session keeps what the operations keep.** -/
theorem step_keeps (h : Machine.Kept b cpu I) (s : Session) (step : Step) (hs : I s.machine) :
    I (s.step b cpu step).2.machine := by
  have hp := h.platform
  cases step with
  | start => exact hs
  | resume top =>
    simp only [Session.step]
    split <;> exact hs
  | mask => exact walk_keeps (Boot.keeps_maskInterrupts hp) s _ _ hs
  | establish top => exact walk_keeps (Boot.keeps_establishStack _) s _ _ hs
  | zeroFill extent => exact walkOver_keeps (Boot.keeps_zeroFill hp) s extent _ _ hs
  | transfer address actions => exact walk_keeps (h.transfer address actions) s _ _ hs
  | halt wakes => exact walk_keeps (Boot.keeps_halt hp wakes) s _ _ hs
  | run extent address actions wakes =>
    exact walkOver_keeps (fun span => Boot.keeps_run hp (h.transfer address actions) span wakes)
      s extent _ _ hs
  | act action => exact h.act action s.machine hs
  | maskProcessor => exact h.mask s.machine hs
  | askInterrupts => exact hs
  | readFlags => exact hs
  | haltProcessor wake =>
    cases wake with
    | none => exact h.halt false s.machine hs
    | some wake => exact h.halt wake s.machine hs
  | zeroBytes start length => exact h.zero start length s.machine hs
  | log level target message =>
    exact emit_of_record (h.log level target message hs)

end Session

end Handoff
