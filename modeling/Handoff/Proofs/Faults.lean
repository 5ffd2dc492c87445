/-
Which step faults when, and what it has done by then.

A checked step can fault at its order check, and two of them at one more place: a zero fill
where it takes the length of its span, and a transfer where it reads the interrupt flag.
Both of these come first, so they win whatever the stage is.  What separates the steps is
where the order check stands.  It comes behind the effect in the first three, so a step that
is refused has masked, noted its stack top or zeroed its span all the same; it comes before
any effect in the other two.  No fault moves the stage.

Every step is taken here on a platform with a trace, so the walk that a fault leaves shows
every order that was given up to it.
-/
import Handoff.Processor
import Handoff.Proofs.Traced

namespace Handoff

/-- No two stages lead to the same one. -/
theorem Stage.next_eq_some_iff {s t : Stage} (h : s.next = some t) (u : Stage) :
    u.next = some t ↔ u = s := by
  constructor
  · intro hu
    cases s <;> cases h <;> cases u <;> first | rfl | cases hu
  · rintro rfl
    exact h

/-- What cannot fault afterwards adds no fault. -/
theorem bind_error_iff {ε σ α β : Type} {x : EStateM ε σ α} {f : α → EStateM ε σ β} {e : ε}
    {s u : σ} (hf : ∀ a t, ∃ b t', f a t = .ok b t') :
    (x >>= f) s = .error e u ↔ x s = .error e u := by
  cases hx : x s with
  | ok a t =>
    obtain ⟨b, t', hft⟩ := hf a t
    rw [bind_of_ok hx, hft]
    simp
  | error e' t =>
    rw [bind_of_error hx]
    simp

namespace Boot

variable {σ : Type} {p : Platform σ} (hp : p.checks = true) {w v : Walk σ} {fault : Fault}
include hp

/-- The order check faults off the stage before, and changes nothing. -/
theorem advance_error_iff (due : Stage) {taken : Stage} (hdue : due.next = some taken) :
    advance p taken w = .error fault v ↔
      w.progress.stage ≠ due ∧ fault = .outOfOrder w.progress.stage.next taken ∧ v = w := by
  have hstage := Stage.next_eq_some_iff hdue w.progress.stage
  by_cases hnext : w.progress.stage.next = some taken
  · rw [advance_of_next hnext]
    simp [hstage.1 hnext]
  · rw [advance_out_of_order hp hnext]
    have hne : w.progress.stage ≠ due := fun heq => hnext (hstage.2 heq)
    simp only [EStateM.Result.error.injEq, hne, ne_eq, not_false_eq_true, true_and]
    rw [eq_comm, @eq_comm _ w v]

theorem maskInterrupts_error_iff :
    maskInterrupts p w = .error fault v ↔
      w.progress.stage ≠ .init ∧
        fault = .outOfOrder w.progress.stage.next .interruptsMasked ∧
        v = { w with machine := p.maskInterrupts w.machine } := by
  rw [maskInterrupts_eq]
  exact advance_error_iff hp .init rfl

theorem establishStack_error_iff {top : StackTop} :
    establishStack p top w = .error fault v ↔
      w.progress.stage ≠ .interruptsMasked ∧
        fault = .outOfOrder w.progress.stage.next .stackEstablished ∧
        v = { w with progress := { w.progress with stackTop := some top } } := by
  rw [establishStack_eq]
  exact advance_error_iff hp .interruptsMasked rfl

theorem zeroFill_error_iff {span : Span} :
    zeroFill p span w = .error fault v ↔
      (span.stop < span.start ∧ fault = .subtractOverflow ∧ v = w) ∨
        (span.start ≤ span.stop ∧ w.progress.stage ≠ .stackEstablished ∧
          fault = .outOfOrder w.progress.stage.next .zeroFillComplete ∧
          v = { w with machine := p.zeroed span w.machine }) := by
  by_cases hinverted : span.stop < span.start
  · have hnot : ¬span.start ≤ span.stop := UInt64.not_le.2 hinverted
    rw [zeroFill_inverted p w hp hinverted]
    simp only [EStateM.Result.error.injEq, hinverted, hnot, true_and, false_and, or_false]
    rw [eq_comm, @eq_comm _ w v]
  · have hle : span.start ≤ span.stop := UInt64.not_lt.1 hinverted
    rw [zeroFill_eq p w (Or.inr hle), bind_error_iff fun _ u => ⟨_, _, report_eq p u ..⟩,
      advance_error_iff hp .stackEstablished rfl]
    simp only [hinverted, hle, true_and, false_and, false_or]

theorem depart_error_iff {address : UInt64} :
    depart p address w = .error fault v ↔
      (p.interruptsEnabled w.machine = true ∧ fault = .unmaskedAtTransfer ∧ v = w) ∨
        (p.interruptsEnabled w.machine = false ∧ w.progress.stage ≠ .zeroFillComplete ∧
          fault = .outOfOrder w.progress.stage.next .transferred ∧ v = w) := by
  rw [depart_eq, hp, Bool.true_and]
  cases hread : p.interruptsEnabled w.machine with
  | true =>
    rw [if_pos rfl]
    simp only [EStateM.Result.error.injEq, true_and, Bool.true_eq_false, false_and, or_false]
    rw [eq_comm, @eq_comm _ w v]
  | false =>
    rw [if_neg Bool.false_ne_true, bind_error_iff fun _ u => ⟨_, _, report_eq p u ..⟩,
      advance_error_iff hp .zeroFillComplete rfl]
    simp only [Bool.false_eq_true, true_and, false_and, false_or]

omit hp in
/-- A transfer to a kernel that returns faults where it would depart. -/
theorem transfer_error_iff {address : UInt64} {code : σ → σ} :
    transfer p (.returning address code) w = .error fault v ↔
      depart p address w = .error fault v :=
  bind_error_iff fun _ u => ⟨_, _, call_of_ok (w := u) rfl⟩

theorem halt_error_iff {wakes : List Bool} :
    halt p wakes w = .error fault v ↔
      w.progress.stage ≠ .transferred ∧
        fault = .outOfOrder w.progress.stage.next .halted ∧ v = w := by
  rw [halt_eq]
  exact (bind_error_iff fun _ _ => ⟨_, _, rfl⟩).trans (advance_error_iff hp .transferred rfl)

end Boot

/-! ### All five of them -/

/-- How the five steps fault on a platform with a trace: when, as what, and with what done. -/
structure Platform.FaultsExactly {σ : Type} (p : Platform σ) : Prop where
  /-- The trace decides nothing. -/
  untraced : p.Tracks Traced.machine (fun _ _ _ => True) p.traced
  /-- Step 1 has masked. -/
  mask : ∀ fault (w v : Walk (Traced σ)), Boot.maskInterrupts p.traced w = .error fault v ↔
    w.progress.stage ≠ .init ∧
      fault = .outOfOrder w.progress.stage.next .interruptsMasked ∧
      v = w.give .mask p.maskInterrupts
  /-- Step 2 has noted the stack top. -/
  establish : ∀ fault top (w v : Walk (Traced σ)),
    Boot.establishStack p.traced top w = .error fault v ↔
      w.progress.stage ≠ .interruptsMasked ∧
        fault = .outOfOrder w.progress.stage.next .stackEstablished ∧
        v = { w with progress := { w.progress with stackTop := some top } }
  /-- Step 3 has done nothing on an inverted span, and zeroed any other. -/
  zeroFill : ∀ fault span (w v : Walk (Traced σ)),
    Boot.zeroFill p.traced span w = .error fault v ↔
      (span.stop < span.start ∧ fault = .subtractOverflow ∧ v = w) ∨
        (span.start ≤ span.stop ∧ w.progress.stage ≠ .stackEstablished ∧
          fault = .outOfOrder w.progress.stage.next .zeroFillComplete ∧
          v = if span.start = span.stop then w
            else w.give (.zero span.start (span.stop - span.start))
              (p.zeroBytes span.start (span.stop - span.start)))
  /-- Step 4 has done nothing, and not entered the kernel either. -/
  transfer : ∀ fault address code (w v : Walk (Traced σ)),
    Boot.transfer p.traced (.traced address code) w = .error fault v ↔
      (p.interruptsEnabled w.machine.machine = true ∧ fault = .unmaskedAtTransfer ∧ v = w) ∨
        (p.interruptsEnabled w.machine.machine = false ∧
          w.progress.stage ≠ .zeroFillComplete ∧
          fault = .outOfOrder w.progress.stage.next .transferred ∧ v = w)
  /-- Step 5 has done nothing. -/
  halt : ∀ fault wakes (w v : Walk (Traced σ)), Boot.halt p.traced wakes w = .error fault v ↔
    w.progress.stage ≠ .transferred ∧
      fault = .outOfOrder w.progress.stage.next .halted ∧ v = w
  /-- The fault names the stage that was due, if there was one, and the stage of the step. -/
  text : ∀ due taken, (Fault.outOfOrder due taken).text =
    "assertion `left == right` failed: boot step out of order\n  left: " ++
      (match due with
        | none => "None"
        | some s => "Some(" ++ s.name ++ ")") ++
      "\n right: " ++ "Some(" ++ taken.name ++ ")"

/-- **Every step of a checked hand-off faults exactly so**, on every platform and on every walk. -/
theorem Platform.faults_exactly {σ : Type} {p : Platform σ} (hchecks : p.checks = true) :
    p.FaultsExactly := by
  have htraced : p.traced.checks = true := hchecks
  constructor
  case untraced => exact p.tracks_traced
  case mask =>
    intro fault w v
    exact Boot.maskInterrupts_error_iff htraced
  case establish =>
    intro fault top w v
    exact Boot.establishStack_error_iff htraced
  case zeroFill =>
    intro fault span w v
    have hzeroed : ({ w with machine := p.traced.zeroed span w.machine } : Walk (Traced σ)) =
        if span.start = span.stop then w
        else w.give (.zero span.start (span.stop - span.start))
          (p.zeroBytes span.start (span.stop - span.start)) := by
      rw [p.traced_zeroed]
      by_cases hempty : span.start = span.stop
      · rw [if_pos hempty, if_pos (by simp [Span.isEmpty, hempty])]
      · rw [if_neg hempty, if_neg (by simp [Span.isEmpty, hempty])]
        rfl
    rw [← hzeroed]
    exact Boot.zeroFill_error_iff htraced
  case transfer =>
    intro fault address code w v
    exact Boot.transfer_error_iff.trans (Boot.depart_error_iff htraced)
  case halt =>
    intro fault wakes w v
    exact Boot.halt_error_iff htraced
  case text =>
    intro due taken
    cases due <;> simp only [Fault.text, Fault.message, Message.ofText, Message.text,
      Stage.displayOption, String.append_assoc, String.append_empty]

/-- At the loader's jump, with interrupts enabled: a zero fill has zeroed when it is refused, one
of an inverted span has not, and a transfer finds the flag before it finds its order. -/
theorem Platform.faults_exactly_at_start :
    let p := Build.metalDebug.platform .recording
    let w : Walk (Traced Machine) := Walk.fresh
      ⟨.start, { flags := ⟨0x202⟩, memory := ⟨0x1000, #[1, 2, 3, 4]⟩, console := .idle false }⟩
    p.checks = true ∧
      (∃ v, Boot.zeroFill p.traced ⟨0x1001, 0x1003⟩ w =
          .error (.outOfOrder (some .interruptsMasked) .zeroFillComplete) v ∧
        v.machine.orders = [.zero 0x1001 2] ∧
        v.machine.machine.memory = ⟨0x1000, #[1, 0, 0, 4]⟩) ∧
      Boot.zeroFill p.traced ⟨0x1003, 0x1001⟩ w = .error .subtractOverflow w ∧
      Boot.transfer p.traced (.traced 0x2000 id) w = .error .unmaskedAtTransfer w := by
  intro p w
  have hfaults := faults_exactly (p := p) rfl
  refine ⟨rfl, ⟨_, (hfaults.zeroFill _ _ w _).2 (Or.inr ⟨by decide, by decide, rfl, rfl⟩), ?_, ?_⟩,
    (hfaults.zeroFill _ _ w w).2 (Or.inl ⟨by decide, rfl, rfl⟩),
    (hfaults.transfer _ _ _ w w).2 (Or.inl ⟨by decide, rfl, rfl⟩)⟩
  · decide
  · decide

end Handoff
