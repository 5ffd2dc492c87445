/-
A hand-off that shows only through a map of machines.

One platform tracks another through a map if each of its operations does to the machine
that shows what the other's does to the machine behind.  The hand-off reaches its machine
through these operations alone, so whatever it does is tracked as well: what shows of a
step is that same step on the platform that tracks, and it ends in the same fault or in
none.

Zeroing is tracked only where `stores` says so, since two platforms need not agree on what
happens outside the memory.  A kernel is code of its own, so it has to be tracked for itself.
-/
import Handoff.Proofs.Steps

namespace Handoff

variable {σ τ : Type}

/-- The walk on the machine that shows. -/
def Walk.map (f : σ → τ) (w : Walk σ) : Walk τ where
  progress := w.progress
  machine := f w.machine

/-- What shows of the end of an operation. -/
def Boot.shown {α : Type} (f : σ → τ) :
    EStateM.Result Fault (Walk σ) α → EStateM.Result Fault (Walk τ) α
  | .ok a w => .ok a (w.map f)
  | .error fault w => .error fault (w.map f)

/-- What the platform does to the machine that shows, `q` does to the machine behind. -/
structure Platform.Tracks (f : σ → τ) (stores : UInt64 → UInt64 → σ → Prop) (p : Platform τ)
    (q : Platform σ) : Prop where
  checks : p.checks = q.checks
  mask : ∀ s, p.maskInterrupts (f s) = f (q.maskInterrupts s)
  interruptsEnabled : ∀ s, p.interruptsEnabled (f s) = q.interruptsEnabled s
  halt : ∀ wake s, p.halt wake (f s) = f (q.halt wake s)
  zero : ∀ start length s, stores start length s →
    p.zeroBytes start length (f s) = f (q.zeroBytes start length s)
  report : ∀ level target text s,
    p.report level target text (f s) = f (q.report level target text s)

/-- What the code of the kernel does to the machine that shows, that of `k` does to the machine
behind. -/
structure Kernel.Tracks (f : σ → τ) (kernel : Kernel τ) (k : Kernel σ) : Prop where
  address : kernel.address = k.address
  code : ∀ s, kernel.code (f s) =
    match k.code s with
    | .ok a t => .ok a (f t)
    | .error fault t => .error fault (f t)

/-! ### One thing after another -/

/-- What shows of two operations is what shows of the second after what shows of the first. -/
theorem Boot.shown_bind {α β : Type} {f : σ → τ} {x : Boot τ α} {y : Boot σ α}
    {g : α → Boot τ β} {h : α → Boot σ β} {w : Walk σ} (hxy : x (w.map f) = shown f (y w))
    (hgh : ∀ a u, g a (u.map f) = shown f (h a u)) :
    (x >>= g) (w.map f) = shown f ((y >>= h) w) := by
  cases hy : y w with
  | ok a u =>
    rw [hy] at hxy
    rw [bind_of_ok hxy, bind_of_ok hy, hgh]
  | error fault u =>
    rw [hy] at hxy
    rw [bind_of_error hxy, bind_of_error hy]
    rfl

/-! ### The steps -/

namespace Platform.Tracks

variable {f : σ → τ} {stores : UInt64 → UInt64 → σ → Prop} {p : Platform τ} {q : Platform σ}
  (h : p.Tracks f stores q) (w : Walk σ)
include h

theorem advance (taken : Stage) :
    Boot.advance p taken (w.map f) = Boot.shown f (Boot.advance q taken w) := by
  have hprogress : (w.map f).progress = w.progress := rfl
  rw [Boot.advance_eq, Boot.advance_eq, h.checks, hprogress]
  split
  · rfl
  · rfl

theorem reports (level : Level) (text : String) :
    Boot.report p level text (w.map f) = Boot.shown f (Boot.report q level text w) := by
  rw [Boot.report_eq, Boot.report_eq]
  exact congrArg (fun t => EStateM.Result.ok () (Walk.mk w.progress t)) (h.report ..)

theorem maskInterrupts :
    Boot.maskInterrupts p (w.map f) = Boot.shown f (Boot.maskInterrupts q w) := by
  have hmask : { w.map f with machine := p.maskInterrupts (w.map f).machine } =
      Walk.map f { w with machine := q.maskInterrupts w.machine } :=
    congrArg (Walk.mk w.progress) (h.mask w.machine)
  rw [Boot.maskInterrupts_eq, Boot.maskInterrupts_eq, hmask, h.advance]

theorem establishStack (top : StackTop) :
    Boot.establishStack p top (w.map f) = Boot.shown f (Boot.establishStack q top w) := by
  rw [Boot.establishStack_eq, Boot.establishStack_eq]
  exact h.advance { w with progress := { w.progress with stackTop := some top } } _

theorem zeroFill {span : Span}
    (hspan : span.isEmpty = false → stores span.start (span.stop - span.start) w.machine) :
    Boot.zeroFill p span (w.map f) = Boot.shown f (Boot.zeroFill q span w) := by
  by_cases hrefused : q.checks = true ∧ span.stop < span.start
  · rw [Boot.zeroFill_inverted p _ (h.checks.trans hrefused.1) hrefused.2,
      Boot.zeroFill_inverted q _ hrefused.1 hrefused.2]
    rfl
  · have hgo : q.checks = false ∨ span.start ≤ span.stop := by
      cases hchecks : q.checks with
      | false => exact Or.inl rfl
      | true => exact Or.inr (UInt64.not_lt.1 fun hlt => hrefused ⟨hchecks, hlt⟩)
    have hzeroed : p.zeroed span (f w.machine) = f (q.zeroed span w.machine) := by
      unfold Platform.zeroed
      cases hempty : span.isEmpty with
      | true => rfl
      | false => exact h.zero _ _ _ (hspan hempty)
    have hwalk : { w.map f with machine := p.zeroed span (w.map f).machine } =
        Walk.map f { w with machine := q.zeroed span w.machine } :=
      congrArg (Walk.mk w.progress) hzeroed
    rw [Boot.zeroFill_eq p _ (h.checks ▸ hgo), Boot.zeroFill_eq q _ hgo, hwalk]
    exact Boot.shown_bind (h.advance _ _) fun _ u => h.reports u _ _

theorem depart (address : UInt64) :
    Boot.depart p address (w.map f) = Boot.shown f (Boot.depart q address w) := by
  have hread : p.interruptsEnabled (w.map f).machine = q.interruptsEnabled w.machine :=
    h.interruptsEnabled _
  rw [Boot.depart_eq, Boot.depart_eq, h.checks, hread]
  split
  · rfl
  · exact Boot.shown_bind (h.advance w _) fun _ u => h.reports u _ _

theorem haltLoop (wakes : List Bool) (s : σ) : p.haltLoop wakes (f s) = f (q.haltLoop wakes s) := by
  unfold Platform.haltLoop
  induction wakes generalizing s with
  | nil => rfl
  | cons wake wakes ih => rw [List.foldl_cons, List.foldl_cons, h.mask, h.halt, ih]

theorem halts (wakes : List Bool) :
    Boot.halt p wakes (w.map f) = Boot.shown f (Boot.halt q wakes w) := by
  rw [Boot.halt_eq, Boot.halt_eq]
  refine Boot.shown_bind (h.advance w _) fun _ u => ?_
  refine Boot.shown_bind (h.reports u _ _) fun _ u => ?_
  exact congrArg (fun t => EStateM.Result.ok () (Walk.mk u.progress t)) (h.haltLoop wakes _)

variable {kernel : Kernel τ} {k : Kernel σ} (hkernel : kernel.Tracks f k)
include hkernel

theorem transfer :
    Boot.transfer p kernel (w.map f) = Boot.shown f (Boot.transfer q k w) := by
  unfold Boot.transfer
  rw [hkernel.address]
  refine Boot.shown_bind (h.depart w k.address) fun _ u => ?_
  have hcode := hkernel.code u.machine
  cases hbehind : k.code u.machine with
  | ok _ t =>
    rw [hbehind] at hcode
    rw [Boot.call_of_ok hbehind, Boot.call_of_ok hcode]
    rfl
  | error fault t =>
    rw [hbehind] at hcode
    rw [Boot.call_of_error hbehind, Boot.call_of_error hcode]
    rfl

/-- **Steps 3 to 5 are tracked**, if what they zero may be stored. -/
theorem run {span : Span}
    (hspan : span.isEmpty = false → stores span.start (span.stop - span.start) w.machine)
    (wakes : List Bool) :
    Boot.run p span kernel wakes (w.map f) = Boot.shown f (Boot.run q span k wakes w) :=
  Boot.shown_bind (h.zeroFill w hspan) fun _ u =>
    Boot.shown_bind (h.transfer u hkernel) fun _ u => h.halts u wakes

end Platform.Tracks

end Handoff
