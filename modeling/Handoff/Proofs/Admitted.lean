/-
Which runs of steps 3 to 5 come to the kernel.

A run has three checks before its call: the span must have a length, the zero fill must be in
order, and interrupts must read as masked.  The order of the transfer is no fourth one, for
behind a zero fill that ended well it is always kept.  The fill stands between the first check
and the second, so a run that is stopped by either of the last two has zeroed its span, and
one that is stopped by the first has done nothing at all.

Behind the call there is no check that can fail.  The kernel is code that knows nothing of the
progress, so whatever it leaves of the machine, the step that follows is in order, and the run
goes on to its halt loop.
-/
import Handoff.Proofs.Filled

namespace Handoff

variable {σ : Type}

/-! ### The steps behind the fill -/

/-- The record before the call. -/
def Order.departing (address : UInt64) : Order :=
  .report .info Boot.target (Boot.departText address)

/-- The record that the kernel returned. -/
def Order.returned : Order := .report .error Boot.target Boot.haltText

namespace Boot

variable (p : Platform σ)

/-- In order and with interrupts read as masked, the transfer makes its record and calls. -/
theorem transfer_traced {w : Walk (Traced σ)} (hstage : w.progress.stage = .zeroFillComplete)
    (hmasked : p.interruptsEnabled w.machine.machine = false) (address : UInt64) (code : σ → σ) :
    transfer p.traced (.traced address code) w = .ok ()
      (((w.arrive .transferred).give (.departing address)
        (p.report .info target (departText address))).give (.enter address) code) := by
  have hread : p.traced.interruptsEnabled w.machine = false := hmasked
  have hnext : w.progress.stage.next = some .transferred := by
    rw [hstage]
    rfl
  have hdepart : depart p.traced address w = .ok ()
      ((w.arrive .transferred).give (.departing address)
        (p.report .info target (departText address))) := by
    rw [depart_eq, hread, Bool.and_false, if_neg Bool.false_ne_true,
      bind_of_ok (advance_of_next hnext)]
    rfl
  exact (bind_of_ok hdepart).trans (call_of_ok rfl)

end Boot

/-! ### The checks before the call -/

/-- Nothing stops a run of steps 3 to 5 on the walk. -/
structure Platform.Admits (p : Platform σ) (span : Span) (w : Walk σ) : Prop where
  stage : w.progress.stage = .stackEstablished
  ordered : span.start ≤ span.stop
  masked : p.interruptsEnabled w.machine = false

/-- What stops a run that is not admitted: the first check that fails. -/
def Walk.objection (span : Span) (w : Walk σ) : Fault :=
  if span.stop < span.start then .subtractOverflow
  else if w.progress.stage ≠ .stackEstablished then
    .outOfOrder w.progress.stage.next .zeroFillComplete
  else .unmaskedAtTransfer

/-- Whether an order is one that a run gives before its call. -/
def Order.early : Order → Bool
  | zero _ _ | report _ _ _ => true
  | mask | halt | enter _ => false

/-- The walk that an operation leaves, however it ends. -/
def Boot.left {α : Type} : EStateM.Result Fault (Walk σ) α → Walk σ
  | .ok _ w | .error _ w => w

/-- A run that was let through to the kernel. -/
structure Boot.Admitted (p : Platform Machine) (span : Span) (address : UInt64)
    (code : Machine → Machine) (wakes : List Bool) (w : Walk Machine)
    (v : Walk (Traced Machine)) : Prop where
  progress : v.progress = { w.progress with stage := .halted }
  /-- It calls once, and the rest is the halt loop. -/
  orders : v.machine.orders = span.orders ++
    [.filled span, .departing address, .enter address, .returned] ++
      Platform.loopOrders wakes.length
  /-- The kernel is entered with the span zeroed and with interrupts masked, and what it leaves
  is the machine that comes to the halt loop. -/
  entered : ∃ entered, ⟨.enter address, entered⟩ ∈ v.machine.calls ∧
    p.interruptsEnabled entered = false ∧
    (∀ a, entered.memory.byte? a = if span.Contains a then some 0 else w.machine.memory.byte? a) ∧
    v.machine.machine = p.haltLoop wakes (p.report .error target haltText (code entered))

/-- A run that was stopped on its way. -/
structure Boot.Stopped (span : Span) (w : Walk Machine) (v : Walk (Traced Machine)) : Prop where
  /-- It neither calls nor comes to the halt loop. -/
  orders : ∀ order ∈ v.machine.orders, order.early = true
  zeroings : v.machine.orders.filter Order.isZero =
    if span.start < span.stop then [.zero span.start (span.stop - span.start)] else []
  bytes : ∀ a, v.machine.machine.memory.byte? a =
    if span.Contains a then some 0 else w.machine.memory.byte? a

/-- How a run of steps 3 to 5 ends, with a kernel that returns. -/
structure Boot.RunsExactly (p : Platform Machine) (span : Span) (address : UInt64)
    (code : Machine → Machine) (wakes : List Bool) (w : Walk Machine) : Prop where
  /-- The trace is of the run as it is without one. -/
  untraced : run p span (.returning address code) wakes w =
    shown Traced.machine (run p.traced span (.traced address code) wakes w.fresh)
  /-- The kernel is called exactly if the run is admitted. -/
  calls_iff : .enter address ∈
      (left (run p.traced span (.traced address code) wakes w.fresh)).machine.orders ↔
    p.Admits span w
  admitted : p.Admits span w → ∃ v,
    run p.traced span (.traced address code) wakes w.fresh = .ok () v ∧
      Admitted p span address code wakes w v
  stopped : ¬p.Admits span w → ∃ v,
    run p.traced span (.traced address code) wakes w.fresh = .error (w.objection span) v ∧
      Stopped span w v

/-! ### The call and no call -/

/-- All that is ordered to zero a span is ordered before the call. -/
theorem Span.early_orders (span : Span) : ∀ order ∈ span.orders, order.early = true := by
  unfold orders
  split
  · intro order horder
    cases horder
  · intro order horder
    rw [List.mem_singleton.1 horder]
    rfl

/-- A run that ends with its zero fill, or right behind it, was stopped. -/
theorem Walk.Filled.stopped {span : Span} {w : Walk Machine} {v : Walk (Traced Machine)}
    (h : Filled span w v) {orders : List Order} (horders : v.machine.orders = span.orders ++ orders)
    (hearly : ∀ order ∈ orders, order.early = true) : Boot.Stopped span w v where
  orders := by
    rw [horders]
    intro order horder
    rcases List.mem_append.1 horder with hfill | hlater
    · exact span.early_orders order hfill
    · exact hearly order hlater
  zeroings := h.zeroings
  bytes := h.bytes

namespace Boot

section Ends

variable {b : Build} {cpu : Processor} {span : Span} {w : Walk Machine}
  (hwritable : w.machine.memory.Writable span) (address : UInt64) (code : Machine → Machine)
  (wakes : List Bool)
include hwritable

/-- A run that nothing stops comes to its halt loop. -/
theorem run_admitted (h : (b.platform cpu).Admits span w) :
    ∃ v, run (b.platform cpu).traced span (.traced address code) wakes w.fresh = .ok () v ∧
      Admitted (b.platform cpu) span address code wakes w v := by
  obtain ⟨filled, hfill, hfilled, hstage, horders⟩ :=
    zeroFill_passes b cpu h.ordered hwritable (Or.inl h.stage)
  have hmasked : (b.platform cpu).interruptsEnabled filled.machine.machine = false :=
    (b.interruptsEnabled_congr cpu hfilled.flags).trans h.masked
  have htransfer := transfer_traced (b.platform cpu) hstage hmasked address code
  rw [run_of_filled hfill, bind_of_ok htransfer, halt_of_due _ (Or.inl rfl) wakes]
  refine ⟨_, rfl, ?_, ?_, ?_⟩
  · show ({ stage := .halted, stackTop := filled.progress.stackTop } : Progress) = _
    rw [hfilled.stackTop]
  · rw [Platform.orders_haltLoop]
    show (((filled.machine.give (.departing address) _).give (.enter address) code).give
      .returned _).orders ++ _ = _
    simp [horders]
  · refine ⟨(b.platform cpu).report .info target (departText address) filled.machine.machine,
      ?_, ?_, ?_, ?_⟩
    · refine Platform.mem_calls_haltLoop _ wakes ?_
      show _ ∈ (((filled.machine.give (.departing address) _).give (.enter address) code).give
        .returned _).calls
      simp [Traced.give]
    · rw [b.interruptsEnabled_report, hmasked]
    · intro a
      rw [b.report_platform, b.memory_logText, hfilled.bytes]
    · exact ((b.platform cpu).haltLoop_untraced wakes _).symm

variable (hchecks : b.checks = true)
include hchecks

omit hwritable in
/-- An inverted span stops the run before it has done anything. -/
theorem run_inverted (hinverted : span.stop < span.start) :
    ∃ v, run (b.platform cpu).traced span (.traced address code) wakes w.fresh =
        .error .subtractOverflow v ∧ Stopped span w v := by
  have htraced : (b.platform cpu).traced.checks = true := (b.checks_platform cpu).trans hchecks
  have hempty : ∀ a, ¬span.Contains a := by
    intro a ha
    exact absurd (UInt64.lt_of_le_of_lt ha.1 ha.2) (UInt64.lt_asymm hinverted)
  refine ⟨w.fresh, run_of_unfilled (zeroFill_inverted _ _ htraced hinverted) _ _, ?_, ?_, ?_⟩
  · intro order horder
    cases horder
  · rw [if_neg (UInt64.lt_asymm hinverted)]
    rfl
  · intro a
    rw [if_neg (hempty a)]
    rfl

/-- The wrong stage stops it behind the fill. -/
theorem run_refused (hle : span.start ≤ span.stop) (hstage : w.progress.stage ≠ .stackEstablished) :
    ∃ v, run (b.platform cpu).traced span (.traced address code) wakes w.fresh =
        .error (.outOfOrder w.progress.stage.next .zeroFillComplete) v ∧ Stopped span w v := by
  obtain ⟨v, hfill, hfilled, -, horders⟩ := zeroFill_refused b cpu hle hwritable hchecks hstage
  refine ⟨v, run_of_unfilled hfill _ _, hfilled.stopped (horders.trans (List.append_nil _).symm) ?_⟩
  intro order horder
  cases horder

/-- Interrupts stop it behind the record of the fill. -/
theorem run_unmasked (hle : span.start ≤ span.stop) (hstage : w.progress.stage = .stackEstablished)
    (hopen : (b.platform cpu).interruptsEnabled w.machine = true) :
    ∃ v, run (b.platform cpu).traced span (.traced address code) wakes w.fresh =
        .error .unmaskedAtTransfer v ∧ Stopped span w v := by
  have htraced : (b.platform cpu).traced.checks = true := (b.checks_platform cpu).trans hchecks
  obtain ⟨v, hfill, hfilled, -, horders⟩ := zeroFill_passes b cpu hle hwritable (Or.inl hstage)
  have hread : (b.platform cpu).traced.interruptsEnabled v.machine = true :=
    (b.interruptsEnabled_congr cpu hfilled.flags).trans hopen
  have htransfer : transfer (b.platform cpu).traced (.traced address code) v =
      .error .unmaskedAtTransfer v :=
    transfer_error_iff.2 ((depart_error_iff htraced).2 (Or.inl ⟨hread, rfl, rfl⟩))
  refine ⟨v, (run_of_filled hfill _ _).trans (bind_of_error htransfer),
    hfilled.stopped horders ?_⟩
  intro order horder
  rw [List.mem_singleton.1 horder]
  rfl

/-- A run that is not admitted is stopped by the first check that fails. -/
theorem run_stopped (h : ¬(b.platform cpu).Admits span w) :
    ∃ v, run (b.platform cpu).traced span (.traced address code) wakes w.fresh =
        .error (w.objection span) v ∧ Stopped span w v := by
  unfold Walk.objection
  by_cases hinverted : span.stop < span.start
  · rw [if_pos hinverted]
    exact run_inverted address code wakes hchecks hinverted
  · have hle : span.start ≤ span.stop := UInt64.not_lt.1 hinverted
    rw [if_neg hinverted]
    by_cases hstage : w.progress.stage = .stackEstablished
    · have hopen : (b.platform cpu).interruptsEnabled w.machine = true := by
        cases hread : (b.platform cpu).interruptsEnabled w.machine with
        | true => rfl
        | false => exact absurd ⟨hstage, hle, hread⟩ h
      rw [if_neg (not_not_intro hstage)]
      exact run_unmasked hwritable address code wakes hchecks hle hstage hopen
    · rw [if_pos hstage]
      exact run_refused hwritable address code wakes hchecks hle hstage

end Ends

/-- **A run of steps 3 to 5 calls exactly if it is admitted**, on every checked build and
processor, whatever the kernel does and whatever the halts wake with. -/
theorem runs_exactly {b : Build} (hchecks : b.checks = true) (cpu : Processor) {span : Span}
    {w : Walk Machine} (hwritable : w.machine.memory.Writable span) (address : UInt64)
    (code : Machine → Machine) (wakes : List Bool) :
    RunsExactly (b.platform cpu) span address code wakes w where
  untraced := run_untraced (b.platform cpu) span address code wakes w
  calls_iff := by
    constructor
    · intro hcall
      refine Classical.byContradiction fun hnot => ?_
      obtain ⟨v, hrun, hstopped⟩ := run_stopped hwritable address code wakes hchecks hnot
      rw [hrun] at hcall
      exact absurd (hstopped.orders _ hcall) Bool.false_ne_true
    · intro h
      obtain ⟨v, hrun, hadmitted⟩ := run_admitted hwritable address code wakes h
      rw [hrun]
      show _ ∈ v.machine.orders
      simp [hadmitted.orders]
  admitted := run_admitted hwritable address code wakes
  stopped := run_stopped hwritable address code wakes hchecks

/-- A kernel that enables interrupts and writes over its own zeroed storage, admitted, and the
same kernel with interrupts enabled before it, which is stopped with the storage zeroed. -/
theorem runs_exactly_both_ways :
    let p := Build.metalDebug.platform .native
    let span : Span := ⟨0x1001, 0x1003⟩
    let arriving (flags : Flags) : Walk Machine :=
      ⟨{ stage := .stackEstablished, stackTop := none },
        { flags, memory := ⟨0x1000, #[1, 2, 3, 4]⟩, console := .idle false }⟩
    let kernel : Kernel Machine := .ofActions 0x2000 [.enableInterrupts, .poke 0x1001 7 1]
    Build.metalDebug.checks = true ∧ (arriving ⟨0x2⟩).machine.memory.Writable span ∧
      (∃ v, Boot.run p span kernel [true, false] (arriving ⟨0x2⟩) = .ok () v ∧
        v.progress.stage = .halted) ∧
      ∃ v, Boot.run p span kernel [true, false] (arriving ⟨0x202⟩) =
          .error .unmaskedAtTransfer v ∧
        v.machine.memory.byte? 0x1001 = some 0 ∧ v.machine.memory.byte? 0x1003 = some 4 := by
  intro p span arriving kernel
  have hwritable : ∀ flags, (arriving flags).machine.memory.Writable span := by
    intro flags
    show Memory.Writable ⟨0x1000, #[1, 2, 3, 4]⟩ ⟨0x1001, 0x1003⟩
    exact (Memory.writable_iff (by decide)).2 (by decide)
  have hruns := fun flags => runs_exactly (b := .metalDebug) rfl .native (hwritable flags) 0x2000
    (fun m => [.enableInterrupts, .poke 0x1001 7 1].foldl Machine.act m.enterKernel) [true, false]
  refine ⟨rfl, hwritable _, ?_, ?_⟩
  · obtain ⟨v, hrun, hadmitted⟩ := (hruns ⟨0x2⟩).admitted ⟨rfl, by decide, by decide⟩
    refine ⟨{ progress := v.progress, machine := v.machine.machine }, ?_, ?_⟩
    · exact (hruns ⟨0x2⟩).untraced.trans (by rw [hrun]; rfl)
    · rw [hadmitted.progress]
  · obtain ⟨v, hrun, hstopped⟩ := (hruns ⟨0x202⟩).stopped fun h => absurd h.masked (by decide)
    refine ⟨{ progress := v.progress, machine := v.machine.machine }, ?_, ?_, ?_⟩
    · exact (hruns ⟨0x202⟩).untraced.trans (by rw [hrun]; rfl)
    · exact (hstopped.bytes _).trans (by decide)
    · exact (hstopped.bytes _).trans (by decide)

end Boot

end Handoff
