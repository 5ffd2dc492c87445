/-
A hand-off together with a trace of all that it asked for.

What a step has done cannot always be read off the machine.  A native processor zeroes
without an event, and a record that is dropped leaves nothing behind.  So the machine is
accompanied by a list here, in which every order is noted with the machine that it was given
to, and the kernel notes that it was entered.  The list decides nothing: once it is left
out, what a step does with a trace is what it does without one.

The halt loop gets a rule of its own.  It has two places at which something can be asserted
of the machine, before it masks and before it halts, and what is true of the one after each
halt and of the other after each masking is true there every time, whatever the wakes are.
-/
import Handoff.Proofs.Tracked

namespace Handoff

/-! ### Traces -/

/-- What a hand-off asks for: four things of its platform, and one of the kernel. -/
inductive Order where
  | mask
  | zero (start length : UInt64)
  | report (level : Level) (target text : String)
  | halt
  | enter (address : UInt64)
  deriving DecidableEq

/-- An order, with the machine as it was when the order was given. -/
structure Call (σ : Type) where
  order : Order
  found : σ

/-- A machine and all orders so far. -/
structure Traced (σ : Type) where
  machine : σ
  calls : List (Call σ)

variable {σ : Type}

namespace Traced

/-- No order so far. -/
def fresh (s : σ) : Traced σ := { machine := s, calls := [] }

/-- Gives an order that is carried out by `f`. -/
def give (order : Order) (f : σ → σ) (t : Traced σ) : Traced σ where
  machine := f t.machine
  calls := t.calls ++ [{ order, found := t.machine }]

/-- The orders alone. -/
def orders (t : Traced σ) : List Order := t.calls.map Call.order

@[simp] theorem orders_fresh (s : σ) : (fresh s).orders = [] := rfl

@[simp] theorem orders_give (order : Order) (f : σ → σ) (t : Traced σ) :
    (t.give order f).orders = t.orders ++ [order] := by
  simp [give, orders]

end Traced

/-- The platform, with a note of every order it is given. -/
def Platform.traced (p : Platform σ) : Platform (Traced σ) where
  checks := p.checks
  maskInterrupts := Traced.give .mask p.maskInterrupts
  interruptsEnabled t := p.interruptsEnabled t.machine
  halt wake := Traced.give .halt (p.halt wake)
  zeroBytes start length := Traced.give (.zero start length) (p.zeroBytes start length)
  report level target text := Traced.give (.report level target text) (p.report level target text)

/-- A kernel that does something to the machine and returns. -/
def Kernel.returning (address : UInt64) (code : σ → σ) : Kernel σ where
  address := address
  code := modify code

/-- The same kernel, with a note that it was entered. -/
def Kernel.traced (address : UInt64) (code : σ → σ) : Kernel (Traced σ) :=
  .returning address (Traced.give (.enter address) code)

namespace Walk

/-- The walk with a trace that is still empty. -/
def fresh (w : Walk σ) : Walk (Traced σ) := w.map Traced.fresh

/-- Gives an order on the machine of the walk. -/
def give (order : Order) (f : σ → σ) (w : Walk (Traced σ)) : Walk (Traced σ) :=
  { w with machine := w.machine.give order f }

/-- Comes to a stage. -/
def arrive (stage : Stage) (w : Walk σ) : Walk σ :=
  { w with progress := { w.progress with stage } }

end Walk

/-! ### Without the trace -/

section Untraced

variable (p : Platform σ)

/-- The trace decides nothing. -/
theorem Platform.tracks_traced : p.Tracks Traced.machine (fun _ _ _ => True) p.traced where
  checks := rfl
  mask _ := rfl
  interruptsEnabled _ := rfl
  halt _ _ := rfl
  zero _ _ _ _ := rfl
  report _ _ _ _ := rfl

theorem Kernel.tracks_traced (address : UInt64) (code : σ → σ) :
    (Kernel.returning address code).Tracks Traced.machine (.traced address code) where
  address := rfl
  code _ := rfl

/-- A zero fill does with a trace what it does without one. -/
theorem Boot.zeroFill_untraced (span : Span) (w : Walk σ) :
    zeroFill p span w = shown Traced.machine (zeroFill p.traced span w.fresh) :=
  p.tracks_traced.zeroFill w.fresh fun _ => trivial

/-- So do steps 3 to 5. -/
theorem Boot.run_untraced (span : Span) (address : UInt64) (code : σ → σ) (wakes : List Bool)
    (w : Walk σ) :
    run p span (.returning address code) wakes w =
      shown Traced.machine (run p.traced span (.traced address code) wakes w.fresh) :=
  p.tracks_traced.run w.fresh (Kernel.tracks_traced address code) (fun _ => trivial) wakes

theorem Platform.haltLoop_untraced (wakes : List Bool) (t : Traced σ) :
    p.haltLoop wakes t.machine = (p.traced.haltLoop wakes t).machine :=
  p.tracks_traced.haltLoop wakes t

end Untraced

/-! ### What is ordered -/

/-- What is ordered to zero a span: nothing for an empty one. -/
def Span.orders (span : Span) : List Order :=
  if span.isEmpty then [] else [.zero span.start (span.stop - span.start)]

namespace Platform

variable (p : Platform σ)

/-- A zero fill has the whole span zeroed at once, or nothing. -/
theorem traced_zeroed (span : Span) (t : Traced σ) :
    p.traced.zeroed span t =
      if span.isEmpty then t
      else t.give (.zero span.start (span.stop - span.start))
        (p.zeroBytes span.start (span.stop - span.start)) := rfl

theorem machine_zeroed (span : Span) (t : Traced σ) :
    (p.traced.zeroed span t).machine = p.zeroed span t.machine := by
  rw [traced_zeroed, zeroed]
  split
  · rfl
  · rfl

theorem orders_zeroed (span : Span) (t : Traced σ) :
    (p.traced.zeroed span t).orders = t.orders ++ span.orders := by
  rw [traced_zeroed, Span.orders]
  split
  · rw [List.append_nil]
  · exact t.orders_give ..

/-! ### The halt loop -/

/-- What the loop orders, watched for some halts. -/
def loopOrders (halts : Nat) : List Order :=
  (List.replicate halts [Order.mask, Order.halt]).flatten

/-- The loop masks before it halts, every time. -/
theorem orders_haltLoop (wakes : List Bool) (t : Traced σ) :
    (p.traced.haltLoop wakes t).orders = t.orders ++ loopOrders wakes.length := by
  unfold haltLoop loopOrders
  induction wakes generalizing t with
  | nil => simp
  | cons wake wakes ih =>
    rw [List.foldl_cons, ih]
    show ((t.give .mask p.maskInterrupts).give .halt (p.halt wake)).orders ++ _ = _
    simp [List.replicate_succ]

/-- The loop forgets no order. -/
theorem mem_calls_haltLoop (wakes : List Bool) {t : Traced σ} {call : Call σ}
    (hcall : call ∈ t.calls) : call ∈ (p.traced.haltLoop wakes t).calls := by
  unfold haltLoop
  induction wakes generalizing t with
  | nil => exact hcall
  | cons wake wakes ih =>
    apply ih
    exact List.mem_append_left _ (List.mem_append_left _ hcall)

/-- **The rule of the loop.**  If masking leads from `I` to `J`, and a halt from `J` back to `I`,
then `I` holds before every masking, `J` before every halt, and `I` in the end. -/
theorem haltLoop_rule {I J : σ → Prop} (hmask : ∀ s, I s → J (p.maskInterrupts s))
    (hhalt : ∀ wake s, J s → I (p.halt wake s)) (wakes : List Bool) {t : Traced σ}
    (ht : I t.machine) :
    I (p.traced.haltLoop wakes t).machine ∧
      ∀ call ∈ (p.traced.haltLoop wakes t).calls, call ∈ t.calls ∨
        (call.order = .mask ∧ I call.found) ∨ (call.order = .halt ∧ J call.found) := by
  unfold haltLoop
  induction wakes generalizing t with
  | nil => exact ⟨ht, fun call hcall => Or.inl hcall⟩
  | cons wake wakes ih =>
    have hmasked := hmask t.machine ht
    obtain ⟨hend, hcalls⟩ := ih (t := (t.give .mask p.maskInterrupts).give .halt (p.halt wake))
      (hhalt wake _ hmasked)
    refine ⟨hend, fun call hcall => ?_⟩
    rcases hcalls call hcall with hfirst | hlater
    · -- of the first round, or from before the loop
      simp only [Traced.give, List.append_assoc, List.mem_append, List.mem_singleton] at hfirst
      rcases hfirst with hbefore | rfl | rfl
      · exact Or.inl hbefore
      · exact Or.inr (Or.inl ⟨rfl, ht⟩)
      · exact Or.inr (Or.inr ⟨rfl, hmasked⟩)
    · exact Or.inr hlater

end Platform

end Handoff
