/-
The count of calls decides nothing.

A life is told over machines with a count of calls beside them.  The count is there to be read
in the end: once it is left out of every attempt, what remains is the life on the platform
itself, attempt by attempt, with the same faults.  A step is known to show through the map
that forgets the count as soon as the platform and the kernel do, so it is the attempts that
are followed here, first in turn and then over a life.
-/
import Handoff.Proofs.Attempts
import Handoff.Proofs.Traced
import Mathlib.Data.List.Forall2

namespace Handoff

variable {σ τ υ : Type} {f : τ → υ}

/-! ### What shows of attempts -/

namespace Attempt

/-- What shows of an attempt. -/
def map (f : τ → υ) (a : Attempt τ) : Attempt υ where
  goal := a.goal
  fault := a.fault
  before := a.before.map f
  after := a.after.map f

/-- One step shows as another, which leads to the same stage. -/
structure Matches (f : τ → υ) (step : Stage × Boot υ Unit) (behind : Stage × Boot τ Unit) :
    Prop where
  goal : step.1 = behind.1
  shown : ∀ w, step.2 (w.map f) = Boot.shown f (behind.2 w)

theorem Matches.of_eq {step : Stage × Boot υ Unit} {behind : Stage × Boot τ Unit}
    (h : Matches f step behind) (w : Walk τ) :
    of step.1 step.2 (w.map f) = (of behind.1 behind.2 w).map f := by
  unfold of
  rw [h.goal, h.shown]
  cases behind.2 w <;> rfl

/-- Steps that show as others are tried as those are, up to the same fault. -/
theorem inTurn_map {steps : List (Stage × Boot υ Unit)} {behind : List (Stage × Boot τ Unit)}
    (h : List.Forall₂ (Matches f) steps behind) (w : Walk τ) :
    inTurn steps (w.map f) = (inTurn behind w).map (map f) := by
  induction h generalizing w with
  | nil => rfl
  | @cons step other steps others hstep _ ih =>
    have hof := hstep.of_eq w
    rw [inTurn, hof, inTurn, List.map_cons]
    refine congrArg (_ :: ·) ?_
    show (if (of other.1 other.2 w).passed then
      inTurn steps ((of other.1 other.2 w).after.map f) else []) = _
    split
    · exact ih _
    · rfl

theorem finish_map (w : Walk τ) (as : List (Attempt τ)) :
    finish (w.map f) (as.map (map f)) = (finish w as).map f := by
  induction as generalizing w with
  | nil => rfl
  | cons a as ih => exact ih a.after

end Attempt

/-! ### What shows of a life -/

namespace Deed

variable {p : Platform υ} {q : Platform τ} (h : p.Tracks f (fun _ _ _ => True) q)
  {kernel : UInt64 → (σ → σ) → Kernel υ} {k : UInt64 → (σ → σ) → Kernel τ}
  (hkernel : ∀ address code, (kernel address code).Tracks f (k address code))
include h hkernel

theorem matches_steps (deed : Deed σ) :
    List.Forall₂ (Attempt.Matches f) (deed.steps p kernel) (deed.steps q k) := by
  have hfill (span : Span) : Attempt.Matches f (.zeroFillComplete, Boot.zeroFill p span)
      (.zeroFillComplete, Boot.zeroFill q span) := ⟨rfl, fun w => h.zeroFill w fun _ => trivial⟩
  have htransfer (address : UInt64) (code : σ → σ) :
      Attempt.Matches f (.transferred, Boot.transfer p (kernel address code))
        (.transferred, Boot.transfer q (k address code)) :=
    ⟨rfl, fun w => h.transfer w (hkernel address code)⟩
  have hhalt (wakes : List Bool) : Attempt.Matches f (.halted, Boot.halt p wakes)
      (.halted, Boot.halt q wakes) := ⟨rfl, fun w => h.halts w wakes⟩
  cases deed with
  | mask => exact .cons ⟨rfl, h.maskInterrupts⟩ .nil
  | establish raw => exact .cons ⟨rfl, fun w => h.establishStack w _⟩ .nil
  | zeroFill span => exact .cons (hfill span) .nil
  | transfer address code => exact .cons (htransfer address code) .nil
  | halt wakes => exact .cons (hhalt wakes) .nil
  | run span address code wakes =>
    exact .cons (hfill span) (.cons (htransfer address code) (.cons (hhalt wakes) .nil))
  | outside change => exact .nil

/-- A life shows attempt by attempt, if what happens to the machine alone does. -/
theorem lifeOn_map {alter : (σ → σ) → υ → υ} {alterBehind : (σ → σ) → τ → τ}
    (halter : ∀ change t, alter change (f t) = f (alterBehind change t)) (deeds : List (Deed σ))
    (w : Walk τ) :
    lifeOn p kernel alter deeds (w.map f) =
      (lifeOn q k alterBehind deeds w).map (Attempt.map f) := by
  induction deeds generalizing w with
  | nil => rfl
  | cons deed deeds ih =>
    have hchanged : { w.map f with machine := alter deed.change (w.map f).machine } =
        Walk.map f { w with machine := alterBehind deed.change w.machine } :=
      congrArg (Walk.mk w.progress) (halter deed.change w.machine)
    have htried := Attempt.inTurn_map (matches_steps h hkernel deed)
    unfold lifeOn
    simp only [hchanged, htried]
    split
    · rfl
    · rw [Attempt.finish_map, ih, List.map_append]

end Deed

/-! ### Without the count -/

section Uncounted

variable (p : Platform σ)

theorem Platform.tracks_tallied : p.Tracks Tallied.machine (fun _ _ _ => True) p.tallied where
  checks := rfl
  mask _ := rfl
  interruptsEnabled _ := rfl
  halt _ _ := rfl
  zero _ _ _ _ := rfl
  report _ _ _ _ := rfl

theorem Kernel.tracks_tallied (address : UInt64) (code : σ → σ) :
    (Kernel.returning address code).Tracks Tallied.machine (.tallied address code) where
  address := rfl
  code _ := rfl

/-- All attempts in the life of a boot CPU on the platform itself. -/
def Deed.bareLife : List (Deed σ) → Walk σ → List (Attempt σ) :=
  lifeOn p .returning id

/-- **Leaving the count out of a life leaves the life on the platform itself**, whatever the
count was to begin with. -/
theorem Deed.bareLife_eq (deeds : List (Deed σ)) (w : Walk (Tallied σ)) :
    bareLife p deeds (w.map Tallied.machine) =
      (life p deeds w).map (Attempt.map Tallied.machine) :=
  lifeOn_map p.tracks_tallied Kernel.tracks_tallied (fun _ _ => rfl) deeds w

end Uncounted

end Handoff
