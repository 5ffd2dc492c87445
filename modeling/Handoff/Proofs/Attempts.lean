/-
Everything that one boot CPU is made to try, step by step.

The order check stands after the effect in three of the steps and before it in two, and
a refused step may still have masked, zeroed memory or noted a stack top.  What a fault
never changes is the stage.  So an attempt either moves the stage to its successor,
which is then the goal of the step, or leaves it: `Attempt.Sound` says so of every
attempt on every checked platform, and `Deed.linked_life` of a whole life, in which each
attempt begins where the one before it ended.

The machine is arbitrary and may be changed in any way between the attempts.  It is
accompanied by a count of the calls of a kernel, which nothing but a call advances.
-/
import Handoff.Proofs.Stack
import Handoff.Proofs.Steps

namespace Handoff

/-! ### A machine on which the calls of a kernel are counted -/

/-- A machine and how often a kernel was called on it. -/
structure Tallied (σ : Type) where
  machine : σ
  calls : Nat

/-- What happens to the machine leaves the count as it is. -/
def Tallied.alter {σ : Type} (change : σ → σ) (t : Tallied σ) : Tallied σ :=
  { t with machine := change t.machine }

/-- The same platform, over the machine with its count. -/
def Platform.tallied {σ : Type} (p : Platform σ) : Platform (Tallied σ) where
  checks := p.checks
  maskInterrupts t := { t with machine := p.maskInterrupts t.machine }
  interruptsEnabled t := p.interruptsEnabled t.machine
  halt wake t := { t with machine := p.halt wake t.machine }
  zeroBytes start length t := { t with machine := p.zeroBytes start length t.machine }
  report level target text t := { t with machine := p.report level target text t.machine }

/-- A kernel that does something to the machine and returns. -/
def Kernel.tallied {σ : Type} (address : UInt64) (code : σ → σ) : Kernel (Tallied σ) where
  address := address
  code := modify fun t => { machine := code t.machine, calls := t.calls + 1 }

/-! ### Attempts -/

/-- One of the five steps as it was tried on a boot CPU. -/
structure Attempt (σ : Type) where
  /-- The stage that the step leads to. -/
  goal : Stage
  /-- How it ended; `none` if it ended well. -/
  fault : Option Fault
  before : Walk σ
  after : Walk σ

namespace Attempt

variable {σ : Type}

/-- The step ended well. -/
def passed (a : Attempt σ) : Bool := a.fault.isNone

/-- Tries a step that leads to a stage. -/
def of (goal : Stage) (step : Boot σ Unit) (w : Walk σ) : Attempt σ :=
  match step w with
  | .ok _ v => { goal, fault := none, before := w, after := v }
  | .error fault v => { goal, fault := some fault, before := w, after := v }

/-- Tries some steps one after another, up to the first that faults. -/
def inTurn : List (Stage × Boot σ Unit) → Walk σ → List (Attempt σ)
  | [], _ => []
  | (goal, step) :: steps, w =>
    let a := of goal step w
    a :: if a.passed then inTurn steps a.after else []

/-- Where some attempts that began on a walk have left it. -/
def finish (w : Walk σ) : List (Attempt σ) → Walk σ
  | [] => w
  | a :: as => finish a.after as

theorem finish_append (w : Walk σ) (as bs : List (Attempt σ)) :
    finish w (as ++ bs) = finish (finish w as) bs := by
  induction as generalizing w with
  | nil => rfl
  | cons a as ih => exact ih a.after

/-- How some attempts in turn have ended together. -/
def outcome (w : Walk σ) : List (Attempt σ) → EStateM.Result Fault (Walk σ) Unit
  | [] => .ok () w
  | a :: as =>
    match a.fault with
    | none => outcome a.after as
    | some fault => .error fault a.after

/-- Does some steps one after another. -/
def inSequence : List (Stage × Boot σ Unit) → Boot σ Unit
  | [] => pure ()
  | (_, step) :: steps => do
    step
    inSequence steps

/-- Trying steps in turn is doing one after another. -/
theorem outcome_inTurn (steps : List (Stage × Boot σ Unit)) (w : Walk σ) :
    outcome w (inTurn steps w) = inSequence steps w := by
  induction steps generalizing w with
  | nil => rfl
  | cons head steps ih =>
    obtain ⟨goal, step⟩ := head
    cases hstep : step w with
    | ok _ v =>
      have hof : of goal step w = { goal, fault := none, before := w, after := v } := by
        rw [of, hstep]
      rw [inSequence, bind_of_ok hstep, ← ih, inTurn, hof]
      rfl
    | error fault v =>
      have hof : of goal step w = { goal, fault := some fault, before := w, after := v } := by
        rw [of, hstep]
      rw [inSequence, bind_of_error hstep, inTurn, hof]
      rfl

/-- The goals of the attempts that ended well, in order. -/
def goals (as : List (Attempt σ)) : List Stage :=
  (as.filter passed).map goal

theorem goals_cons (a : Attempt σ) (as : List (Attempt σ)) :
    goals (a :: as) = if a.passed then a.goal :: goals as else goals as := by
  unfold goals
  rw [List.filter_cons]
  split <;> rfl

end Attempt

/-! ### The life of a boot CPU -/

/-- What can be done with one boot CPU, and to its machine meanwhile. -/
inductive Deed (σ : Type) where
  | mask
  | establish (raw : UInt64)
  | zeroFill (span : Span)
  | transfer (address : UInt64) (code : σ → σ)
  | halt (wakes : List Bool)
  | run (span : Span) (address : UInt64) (code : σ → σ) (wakes : List Bool)
  /-- Anything that happens to the machine alone. -/
  | outside (change : σ → σ)

namespace Deed

variable {σ : Type}

/-- The steps that a deed consists of, each with the stage it leads to; `kernel` makes a
kernel of an address and its code. -/
def steps {τ : Type} (p : Platform τ) (kernel : UInt64 → (σ → σ) → Kernel τ) :
    Deed σ → List (Stage × Boot τ Unit)
  | mask => [(.interruptsMasked, Boot.maskInterrupts p)]
  | establish raw => [(.stackEstablished, Boot.establishStack p (.alignDown raw))]
  | zeroFill span => [(.zeroFillComplete, Boot.zeroFill p span)]
  | transfer address code => [(.transferred, Boot.transfer p (kernel address code))]
  | halt wakes => [(.halted, Boot.halt p wakes)]
  | run span address code wakes =>
    [(.zeroFillComplete, Boot.zeroFill p span),
      (.transferred, Boot.transfer p (kernel address code)),
      (.halted, Boot.halt p wakes)]
  | outside _ => []

/-- Whether nothing can be done with the boot CPU afterwards. -/
def last : Deed σ → Bool
  | halt _ | run _ _ _ _ => true
  | _ => false

/-- What a deed does to the machine apart from its steps. -/
def change : Deed σ → σ → σ
  | outside change => change
  | _ => id

/-- All attempts in the life of a boot CPU; `alter` does to its machine what a deed does to
the machine alone.  A fault ends the deed that raised it and nothing else. -/
def lifeOn {τ : Type} (p : Platform τ) (kernel : UInt64 → (σ → σ) → Kernel τ)
    (alter : (σ → σ) → τ → τ) : List (Deed σ) → Walk τ → List (Attempt τ)
  | [], _ => []
  | deed :: deeds, w =>
    let changed := { w with machine := alter deed.change w.machine }
    let tried := Attempt.inTurn (deed.steps p kernel) changed
    if deed.last then tried
    else tried ++ lifeOn p kernel alter deeds (Attempt.finish changed tried)

/-- All attempts in the life of a boot CPU, with the calls of a kernel counted. -/
def life (p : Platform σ) : List (Deed σ) → Walk (Tallied σ) → List (Attempt (Tallied σ)) :=
  lifeOn p.tallied .tallied Tallied.alter

/-- Steps 3 to 5 at once are the three of them in turn. -/
theorem run_eq_inTurn (p : Platform σ) (span : Span) (address : UInt64) (code : σ → σ)
    (wakes : List Bool) (w : Walk (Tallied σ)) :
    Boot.run p.tallied span (.tallied address code) wakes w =
      Attempt.outcome w
        (Attempt.inTurn ((run span address code wakes).steps p.tallied .tallied) w) := by
  have hhalt : (do Boot.halt p.tallied wakes; pure ()) = Boot.halt p.tallied wakes :=
    bind_pure_unit
  rw [Attempt.outcome_inTurn]
  simp only [steps, Attempt.inSequence, hhalt]
  rfl

end Deed

/-! ### The chain of stages -/

namespace Stage

theorem le_iff_rank (s t : Stage) : s ≤ t ↔ s.rank ≤ t.rank := by
  cases s <;> cases t <;> decide

theorem chain_of_next {s t : Stage} (h : s.next = some t) : s.chain = s :: t.chain := by
  rw [chain]
  split
  · simp_all
  · rename_i u hu
    rw [h] at hu
    cases hu
    rfl

theorem chain_halted : halted.chain = [halted] := by
  rw [chain]
  rfl

theorem chain_eq_cons (s : Stage) : s.chain = s :: s.chain.tail := by
  cases hnext : s.next with
  | none =>
    rw [chain]
    split
    · rfl
    · simp_all
  | some t => rw [chain_of_next hnext, List.tail_cons]

theorem le_trans {s t u : Stage} (hst : s ≤ t) (htu : t ≤ u) : s ≤ u := by
  rw [le_iff_rank] at *
  exact Nat.le_trans hst htu

/-- A chain holds no stage twice. -/
theorem nodup_chain (s : Stage) : s.chain.Nodup := by
  cases s <;>
    simp [chain_of_next (s := init) rfl, chain_of_next (s := interruptsMasked) rfl,
      chain_of_next (s := stackEstablished) rfl, chain_of_next (s := zeroFillComplete) rfl,
      chain_of_next (s := transferred) rfl, chain_halted]

theorem eq_of_next_transferred {s : Stage} (h : s.next = some .transferred) :
    s = .zeroFillComplete := by
  cases s <;> first | rfl | cases h

theorem rank_of_next {s t : Stage} (h : s.next = some t) : t.rank = s.rank + 1 := by
  cases s <;> cases h <;> rfl

end Stage

namespace Progress

/-- From the second stage on there is a stack top, and a stack top is always aligned. -/
structure Seated (p : Progress) : Prop where
  aligned : ∀ top, p.stackTop = some top → 16 ∣ top.raw.toNat
  present : Stage.stackEstablished ≤ p.stage → p.stackTop.isSome = true

theorem Seated.top {p : Progress} (h : p.Seated) (hle : Stage.stackEstablished ≤ p.stage) :
    ∃ top, p.stackTop = some top ∧ 16 ∣ top.raw.toNat := by
  obtain ⟨top, htop⟩ := Option.isSome_iff_exists.1 (h.present hle)
  exact ⟨top, htop, h.aligned top htop⟩

/-- A step that leads to another stage than the second needs no new stack top. -/
theorem Seated.advance {p : Progress} (h : p.Seated) {taken : Stage}
    (hnext : p.stage.next = some taken) (htaken : taken ≠ .stackEstablished) :
    Seated { p with stage := taken } where
  aligned := h.aligned
  present hle := by
    refine h.present ?_
    have hrank := Stage.rank_of_next hnext
    rw [Stage.le_iff_rank] at hle ⊢
    have hne : taken.rank ≠ Stage.rank .stackEstablished := by
      cases taken <;> first | exact absurd rfl htaken | decide
    simp only at hle
    omega

end Progress

/-! ### Every attempt is sound -/

namespace Attempt

variable {σ : Type}

/-- What an attempt can do to the stage, to the count of calls and to the stack top. -/
structure Sound (a : Attempt (Tallied σ)) : Prop where
  onward : a.passed = true →
    a.before.progress.stage.next = some a.goal ∧ a.after.progress.stage = a.goal
  refused : a.passed = false → a.after.progress.stage = a.before.progress.stage
  calls : a.after.machine.calls =
    a.before.machine.calls + if a.passed && a.goal == .transferred then 1 else 0
  seated : a.before.progress.Seated → a.after.progress.Seated

/-- The stage stays or goes on to its successor. -/
theorem Sound.stage_cases {a : Attempt (Tallied σ)} (h : a.Sound) :
    a.after.progress.stage = a.before.progress.stage ∨
      a.before.progress.stage.next = some a.after.progress.stage := by
  cases hpassed : a.passed with
  | true =>
    obtain ⟨hnext, hafter⟩ := h.onward hpassed
    exact Or.inr (hafter ▸ hnext)
  | false => exact Or.inl (h.refused hpassed)

theorem Sound.stage_le {a : Attempt (Tallied σ)} (h : a.Sound) :
    a.before.progress.stage ≤ a.after.progress.stage := by
  rw [Stage.le_iff_rank]
  rcases h.stage_cases with hsame | hnext
  · exact Nat.le_of_eq (congrArg Stage.rank hsame.symm)
  · rw [Stage.rank_of_next hnext]
    exact Nat.le_succ _

variable {goal : Stage} {step : Boot (Tallied σ) Unit} {w v : Walk (Tallied σ)}

/-- A step that passed is sound if it moved the stage on and counted its call. -/
theorem sound_of_ok (hstep : step w = .ok () v) (hnext : w.progress.stage.next = some goal)
    (hstage : v.progress.stage = goal)
    (hcalls : v.machine.calls = w.machine.calls + if goal = .transferred then 1 else 0)
    (hseated : w.progress.Seated → v.progress.Seated) : (of goal step w).Sound := by
  have hof : of goal step w = { goal, fault := none, before := w, after := v } := by
    rw [of, hstep]
  rw [hof]
  exact
    { onward := fun _ => ⟨hnext, hstage⟩
      refused := fun h => by cases h
      calls := by simpa [passed] using hcalls
      seated := hseated }

/-- A step that was refused is sound if it left the stage alone and called nothing. -/
theorem sound_of_error {fault : Fault} (hstep : step w = .error fault v)
    (hstage : v.progress.stage = w.progress.stage)
    (hcalls : v.machine.calls = w.machine.calls)
    (hseated : w.progress.Seated → v.progress.Seated) : (of goal step w).Sound := by
  have hof : of goal step w = { goal, fault := some fault, before := w, after := v } := by
    rw [of, hstep]
  rw [hof]
  exact
    { onward := fun h => by cases h
      refused := fun _ => hstage
      calls := by simpa [passed] using hcalls
      seated := hseated }

variable {p : Platform σ} (hchecks : p.checks = true) (w : Walk (Tallied σ))
include hchecks

theorem sound_mask : (of .interruptsMasked (Boot.maskInterrupts p.tallied) w).Sound := by
  have heq := Boot.maskInterrupts_eq p.tallied w
  by_cases hnext : w.progress.stage.next = some .interruptsMasked
  · exact sound_of_ok (heq.trans (Boot.advance_of_next hnext)) hnext rfl rfl
      fun hseated => hseated.advance hnext (by decide)
  · exact sound_of_error (heq.trans (Boot.advance_out_of_order hchecks hnext)) rfl rfl id

theorem sound_establish (raw : UInt64) :
    (of .stackEstablished (Boot.establishStack p.tallied (.alignDown raw)) w).Sound := by
  have heq := Boot.establishStack_eq p.tallied w (.alignDown raw)
  have haligned : ∀ top, some (StackTop.alignDown raw) = some top → 16 ∣ top.raw.toNat := by
    rintro top htop
    cases htop
    exact StackTop.alignDown_aligned raw
  by_cases hnext : w.progress.stage.next = some .stackEstablished
  · exact sound_of_ok (heq.trans (Boot.advance_of_next hnext)) hnext rfl rfl
      fun _ => ⟨haligned, fun _ => rfl⟩
  · exact sound_of_error (heq.trans (Boot.advance_out_of_order hchecks hnext)) rfl rfl
      fun _ => ⟨haligned, fun _ => rfl⟩

theorem sound_zeroFill (span : Span) :
    (of .zeroFillComplete (Boot.zeroFill p.tallied span) w).Sound := by
  by_cases hspan : span.stop < span.start
  · exact sound_of_error (Boot.zeroFill_inverted p.tallied w hchecks hspan) rfl rfl id
  · have heq := Boot.zeroFill_eq p.tallied w (Or.inr (UInt64.not_lt.1 hspan))
    have hcalls : (p.tallied.zeroed span w.machine).calls = w.machine.calls := by
      unfold Platform.zeroed
      split <;> rfl
    by_cases hnext : w.progress.stage.next = some .zeroFillComplete
    · exact sound_of_ok (heq.trans (bind_of_ok (Boot.advance_of_next hnext))) hnext rfl hcalls
        fun hseated => hseated.advance hnext (by decide)
    · exact sound_of_error (heq.trans (bind_of_error (Boot.advance_out_of_order hchecks hnext)))
        rfl hcalls id

theorem sound_transfer (address : UInt64) (code : σ → σ) :
    (of .transferred (Boot.transfer p.tallied (.tallied address code)) w).Sound := by
  rcases Boot.depart_cases p.tallied w address with ⟨fault, hstop⟩ | ⟨hchecked, hgo⟩
  · exact sound_of_error (bind_of_error hstop) rfl rfl id
  · have hnext := (hchecked hchecks).2
    exact sound_of_ok ((bind_of_ok hgo).trans (Boot.call_of_ok rfl)) hnext rfl rfl
      fun hseated => hseated.advance hnext (by decide)

theorem sound_halt (wakes : List Bool) : (of .halted (Boot.halt p.tallied wakes) w).Sound := by
  have hcalls (t : Tallied σ) : (p.tallied.haltLoop wakes t).calls = t.calls := by
    unfold Platform.haltLoop
    induction wakes generalizing t with
    | nil => rfl
    | cons wake wakes ih => exact ih _
  have heq := Boot.halt_eq p.tallied w wakes
  by_cases hnext : w.progress.stage.next = some .halted
  · exact sound_of_ok (heq.trans (bind_of_ok (Boot.advance_of_next hnext))) hnext rfl (hcalls _)
      fun hseated => hseated.advance hnext (by decide)
  · exact sound_of_error (heq.trans (bind_of_error (Boot.advance_out_of_order hchecks hnext)))
      rfl rfl id

end Attempt

theorem Deed.sound_steps {σ : Type} {p : Platform σ} (hchecks : p.checks = true) (deed : Deed σ) :
    ∀ step ∈ deed.steps p.tallied .tallied, ∀ w, (Attempt.of step.1 step.2 w).Sound := by
  intro step hstep w
  cases deed with
  | mask =>
    rw [List.mem_singleton.1 hstep]
    exact Attempt.sound_mask hchecks w
  | establish raw =>
    rw [List.mem_singleton.1 hstep]
    exact Attempt.sound_establish hchecks w raw
  | zeroFill span =>
    rw [List.mem_singleton.1 hstep]
    exact Attempt.sound_zeroFill hchecks w span
  | transfer address code =>
    rw [List.mem_singleton.1 hstep]
    exact Attempt.sound_transfer hchecks w address code
  | halt wakes =>
    rw [List.mem_singleton.1 hstep]
    exact Attempt.sound_halt hchecks w wakes
  | run span address code wakes =>
    simp only [steps, List.mem_cons, List.not_mem_nil, or_false] at hstep
    rcases hstep with rfl | rfl | rfl
    · exact Attempt.sound_zeroFill hchecks w span
    · exact Attempt.sound_transfer hchecks w address code
    · exact Attempt.sound_halt hchecks w wakes
  | outside change => cases hstep

/-! ### Attempts that follow each other -/

namespace Attempt

variable {σ : Type}

/-- Sound attempts, each of which begins with the progress and the count that the one
before it left; the first begins with those of a given walk. -/
def Linked : Walk (Tallied σ) → List (Attempt (Tallied σ)) → Prop
  | _, [] => True
  | w, a :: as =>
    (a.before.progress = w.progress ∧ a.before.machine.calls = w.machine.calls ∧ a.Sound) ∧
      Linked a.after as

theorem Linked.append {w : Walk (Tallied σ)} {as bs : List (Attempt (Tallied σ))} :
    Linked w (as ++ bs) ↔ Linked w as ∧ Linked (finish w as) bs := by
  induction as generalizing w with
  | nil => simp [Linked, finish]
  | cons a as ih => simp only [List.cons_append, Linked, finish, ih, and_assoc]

/-- What happens to the machine alone does not break the link. -/
theorem Linked.congr {w v : Walk (Tallied σ)} {as : List (Attempt (Tallied σ))}
    (hprogress : w.progress = v.progress) (hcalls : w.machine.calls = v.machine.calls)
    (h : Linked w as) : Linked v as := by
  cases as with
  | nil => trivial
  | cons a as =>
    obtain ⟨⟨hbefore, hcount, hsound⟩, hrest⟩ := h
    exact ⟨⟨hbefore.trans hprogress, hcount.trans hcalls, hsound⟩, hrest⟩

theorem of_before (goal : Stage) (step : Boot σ Unit) (w : Walk σ) :
    (of goal step w).before = w := by
  unfold of
  split <;> rfl

theorem linked_inTurn {steps : List (Stage × Boot (Tallied σ) Unit)}
    (hsound : ∀ step ∈ steps, ∀ w, (of step.1 step.2 w).Sound) (w : Walk (Tallied σ)) :
    Linked w (inTurn steps w) := by
  induction steps generalizing w with
  | nil => trivial
  | cons step steps ih =>
    have hbefore := of_before step.1 step.2 w
    refine ⟨⟨by rw [hbefore], by rw [hbefore], hsound step List.mem_cons_self w⟩, ?_⟩
    split
    · exact ih (fun s hs => hsound s (List.mem_cons_of_mem _ hs)) _
    · trivial

end Attempt

theorem Deed.linked_life {σ : Type} {p : Platform σ} (hchecks : p.checks = true)
    (deeds : List (Deed σ)) (w : Walk (Tallied σ)) : Attempt.Linked w (life p deeds w) := by
  induction deeds generalizing w with
  | nil => trivial
  | cons deed deeds ih =>
    have htried := Attempt.linked_inTurn (deed.sound_steps hchecks)
      { w with machine := w.machine.alter deed.change }
    refine Attempt.Linked.congr
      (w := { w with machine := w.machine.alter deed.change }) rfl rfl ?_
    unfold life lifeOn
    simp only
    split
    · exact htried
    · exact Attempt.Linked.append.2 ⟨htried, ih _⟩

end Handoff
