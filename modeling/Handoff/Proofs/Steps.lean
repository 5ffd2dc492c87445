/-
What each step of the hand-off does, as one equation.

A step is an effect and an order check, in one order or the other, and nothing more.
So every step is rewritten here to `advance` on a walk whose machine already shows the
effects that come first, and `advance` itself is one conditional.  Later proofs about
the hand-off start from these equations and from `bind_of_ok` and `bind_of_error`; none
of them opens a step again.
-/
import Handoff.Sequence

namespace Handoff

/-! ### Running one thing after another -/

section Bind

variable {ε σ α β : Type} {x : EStateM ε σ α} {f : α → EStateM ε σ β} {s t : σ}

theorem bind_of_ok {a : α} (h : x s = .ok a t) : (x >>= f) s = f a t := by
  simp [bind, EStateM.bind, h]

theorem bind_of_error {e : ε} (h : x s = .error e t) : (x >>= f) s = .error e t := by
  simp [bind, EStateM.bind, h]

/-- Where the first part ends alike, so does the whole. -/
theorem bind_congr_left {y : EStateM ε σ α} (h : x s = y t) : (x >>= f) s = (y >>= f) t := by
  simp [bind, EStateM.bind, h]

/-- What ends well ended well in both parts. -/
theorem bind_ok_iff {b : β} {u : σ} :
    (x >>= f) s = .ok b u ↔ ∃ a t, x s = .ok a t ∧ f a t = .ok b u := by
  constructor
  · intro h
    cases hx : x s with
    | ok a t =>
      rw [bind_of_ok hx] at h
      exact ⟨a, t, rfl, h⟩
    | error e t =>
      rw [bind_of_error hx] at h
      cases h
  · rintro ⟨a, t, hx, hf⟩
    rw [bind_of_ok hx, hf]

end Bind

theorem Span.length_of_le {span : Span} (h : span.start ≤ span.stop) (checks : Bool) :
    span.length checks = .ok (span.stop - span.start) :=
  Word.sub_of_le h

/-- An inverted span has no length in a checked build. -/
theorem Span.length_of_inverted {span : Span} (h : span.stop < span.start) :
    span.length true = .error .subtractOverflow := by
  simp [length, Word.sub, h]

/-- A span that is not inverted is one without a length fault; an unchecked build
faults on none. -/
theorem Span.length_eq {span : Span} {checks : Bool}
    (h : checks = false ∨ span.start ≤ span.stop) :
    span.length checks = .ok (span.stop - span.start) := by
  rcases h with rfl | h
  · rfl
  · exact length_of_le h checks

namespace Platform

variable {σ : Type}

/-- The machine after a span was zeroed; an empty span causes no write. -/
def zeroed (p : Platform σ) (span : Span) (s : σ) : σ :=
  if span.isEmpty then s else p.zeroBytes span.start (span.stop - span.start) s

end Platform

namespace Boot

variable {σ : Type} (p : Platform σ) (w : Walk σ)

/-! ### The order check -/

theorem advance_eq (taken : Stage) :
    advance p taken w =
      if p.checks && w.progress.stage.next != some taken then
        .error (.outOfOrder w.progress.stage.next taken) w
      else .ok () { w with progress := { w.progress with stage := taken } } := by
  have hget : advance p taken w =
      match w.progress.advance p.checks taken with
      | .ok progress => .ok () { w with progress }
      | .error fault => .error fault w := by
    unfold advance
    rw [bind_of_ok (show (get : Boot σ (Walk σ)) w = .ok w w from rfl)]
    cases w.progress.advance p.checks taken <;> rfl
  rw [hget, Progress.advance]
  cases p.checks && w.progress.stage.next != some taken <;> rfl

variable {p w}

theorem advance_of_next {taken : Stage} (h : w.progress.stage.next = some taken) :
    advance p taken w = .ok () { w with progress := { w.progress with stage := taken } } := by
  rw [advance_eq, h, if_neg (by simp)]

theorem advance_of_unchecked {taken : Stage} (hp : p.checks = false) :
    advance p taken w = .ok () { w with progress := { w.progress with stage := taken } } := by
  rw [advance_eq, hp, if_neg (by simp)]

theorem advance_out_of_order {taken : Stage} (hp : p.checks = true)
    (h : w.progress.stage.next ≠ some taken) :
    advance p taken w = .error (.outOfOrder w.progress.stage.next taken) w := by
  rw [advance_eq, hp, if_pos (by simpa using h)]

variable (p w)

/-- A step to a stage is refused only if that is not the next one. -/
theorem advance_cases (taken : Stage) :
    (w.progress.stage.next ≠ some taken ∧
        advance p taken w = .error (.outOfOrder w.progress.stage.next taken) w) ∨
      advance p taken w = .ok () { w with progress := { w.progress with stage := taken } } := by
  rw [advance_eq]
  by_cases hrefused : (p.checks && w.progress.stage.next != some taken) = true
  · refine Or.inl ⟨?_, if_pos hrefused⟩
    simpa using (Bool.and_eq_true_iff.1 hrefused).2
  · exact Or.inr (if_neg hrefused)

theorem report_eq (level : Level) (text : String) :
    report p level text w = .ok () { w with machine := p.report level target text w.machine } :=
  rfl

/-! ### The steps -/

theorem maskInterrupts_eq :
    maskInterrupts p w =
      advance p .interruptsMasked { w with machine := p.maskInterrupts w.machine } := rfl

theorem establishStack_eq (top : StackTop) :
    establishStack p top w =
      advance p .stackEstablished
        { w with progress := { w.progress with stackTop := some top } } := rfl

/-- Step 3 up to its record. -/
def fill (span : Span) : Boot σ Unit := do
  unless span.isEmpty do
    let length ← MonadExcept.ofExcept (span.length p.checks)
    onMachine (p.zeroBytes span.start length)
  advance p .zeroFillComplete

theorem zeroFill_eq_fill (span : Span) :
    zeroFill p span = (do
      fill p span
      let length ← MonadExcept.ofExcept (span.length p.checks)
      report p .debug (zeroFillText span.start length)) := by
  unfold zeroFill fill
  cases span.isEmpty <;> simp

/-- A span that does not fault is zeroed before the order is checked. -/
theorem fill_eq {span : Span} (h : p.checks = false ∨ span.start ≤ span.stop) :
    fill p span w = advance p .zeroFillComplete { w with machine := p.zeroed span w.machine } := by
  unfold fill
  rw [Span.length_eq h]
  cases hempty : span.isEmpty with
  | true => simp only [Platform.zeroed, hempty]; rfl
  | false => simp only [Platform.zeroed, hempty]; rfl

/-- An inverted span faults in a checked build before anything is done. -/
theorem fill_inverted (hp : p.checks = true) {span : Span} (h : span.stop < span.start) :
    fill p span w = .error .subtractOverflow w := by
  have hempty : span.isEmpty = false := by
    have hne : span.start ≠ span.stop := fun heq => UInt64.lt_irrefl _ (heq ▸ h)
    simpa [Span.isEmpty] using hne
  unfold fill
  rw [hempty, hp, Span.length_of_inverted h]
  rfl

/-- Everything that the zero fill does once the span is known not to fault. -/
theorem zeroFill_eq {span : Span} (h : p.checks = false ∨ span.start ≤ span.stop) :
    zeroFill p span w =
      (advance p .zeroFillComplete >>= fun _ =>
        report p .debug (zeroFillText span.start (span.stop - span.start)))
        { w with machine := p.zeroed span w.machine } := by
  rw [zeroFill_eq_fill, bind_congr_left (fill_eq p w h), Span.length_eq h]
  rfl

theorem zeroFill_inverted (hp : p.checks = true) {span : Span} (h : span.stop < span.start) :
    zeroFill p span w = .error .subtractOverflow w := by
  rw [zeroFill_eq_fill, bind_of_error (fill_inverted p w hp h)]

/-- A zero fill faults on its span, or comes to the order check. -/
theorem zeroFill_cases (span : Span) :
    zeroFill p span w = .error .subtractOverflow w ∨
      zeroFill p span w =
        (advance p .zeroFillComplete >>= fun _ =>
          report p .debug (zeroFillText span.start (span.stop - span.start)))
          { w with machine := p.zeroed span w.machine } := by
  by_cases hlt : span.stop < span.start
  · cases hchecks : p.checks with
    | true => exact Or.inl (zeroFill_inverted p w hchecks hlt)
    | false => exact Or.inr (zeroFill_eq p w (Or.inl hchecks))
  · exact Or.inr (zeroFill_eq p w (Or.inr (UInt64.not_lt.1 hlt)))

theorem depart_eq (address : UInt64) :
    depart p address w =
      if p.checks && p.interruptsEnabled w.machine then .error .unmaskedAtTransfer w
      else (advance p .transferred >>= fun _ => report p .info (departText address)) w := by
  unfold depart
  cases hmasked : p.checks && p.interruptsEnabled w.machine with
  | true =>
    rw [if_pos rfl, bind_of_ok (show (get : Boot σ (Walk σ)) w = .ok w w from rfl), hmasked]
    rfl
  | false =>
    rw [if_neg (by simp), bind_of_ok (show (get : Boot σ (Walk σ)) w = .ok w w from rfl), hmasked]
    rfl

/-- The check before the call either stops the hand-off with nothing done, or lets it
through with the order kept and interrupts read as masked, as far as the build looks. -/
theorem depart_cases (address : UInt64) :
    (∃ fault, depart p address w = .error fault w) ∨
      ((p.checks = true →
          p.interruptsEnabled w.machine = false ∧ w.progress.stage.next = some .transferred) ∧
        depart p address w = .ok ()
          { progress := { w.progress with stage := .transferred }
            machine := p.report .info target (departText address) w.machine }) := by
  by_cases hopen : (p.checks && p.interruptsEnabled w.machine) = true
  · exact Or.inl ⟨_, by rw [depart_eq, if_pos hopen]⟩
  · by_cases horder : (p.checks && w.progress.stage.next != some .transferred) = true
    · refine Or.inl ⟨.outOfOrder w.progress.stage.next .transferred, ?_⟩
      rw [depart_eq, if_neg hopen, bind_of_error]
      rw [advance_eq, if_pos horder]
    · refine Or.inr ⟨fun hp => ?_, ?_⟩
      · rw [hp, Bool.true_and] at hopen horder
        exact ⟨by simpa using hopen, by simpa using horder⟩
      · rw [depart_eq, if_neg hopen, bind_of_ok (by rw [advance_eq, if_neg horder])]
        rfl

variable {w} in
theorem call_of_ok {kernel : Kernel σ} {s : σ} (h : kernel.code w.machine = .ok () s) :
    call kernel w = .ok () { w with machine := s } := by
  rw [call, h]

variable {w} in
theorem call_of_error {kernel : Kernel σ} {fault : Fault} {s : σ}
    (h : kernel.code w.machine = .error fault s) :
    call kernel w = .error fault { w with machine := s } := by
  rw [call, h]

theorem halt_eq (wakes : List Bool) :
    halt p wakes w =
      (advance p .halted >>= fun _ => do
        report p .error haltText
        onMachine (p.haltLoop wakes)) w := rfl

variable {w} in
/-- In order, or with the order unchecked, the last step makes its record and comes to its loop. -/
theorem halt_of_due (hgo : w.progress.stage = .transferred ∨ p.checks = false)
    (wakes : List Bool) :
    halt p wakes w = .ok ()
      { progress := { w.progress with stage := .halted }
        machine := p.haltLoop wakes (p.report .error target haltText w.machine) } := by
  have hadvance : advance p .halted w =
      .ok () { w with progress := { w.progress with stage := .halted } } := by
    rcases hgo with hdue | hunchecked
    · refine advance_of_next ?_
      rw [hdue]
      rfl
    · exact advance_of_unchecked hunchecked
  rw [halt_eq, bind_of_ok hadvance]
  rfl

/-! ### Steps 3 to 5 -/

variable {p w}

/-- Once the span is zeroed, the call and the halt are what is left. -/
theorem run_of_filled {span : Span} {v : Walk σ} (h : zeroFill p span w = .ok () v)
    (kernel : Kernel σ) (wakes : List Bool) :
    run p span kernel wakes w = (transfer p kernel >>= fun _ => halt p wakes) v :=
  bind_of_ok h

/-- A fault of the zero fill is the end. -/
theorem run_of_unfilled {span : Span} {v : Walk σ} {fault : Fault}
    (h : zeroFill p span w = .error fault v) (kernel : Kernel σ) (wakes : List Bool) :
    run p span kernel wakes w = .error fault v :=
  bind_of_error h

end Boot

end Handoff
