/-
The five steps are taken in order, and each at most once.

A life is a linked list of sound attempts, and everything here is read off such a list
by induction.  Each attempt that passed has moved the stage to its successor, so the
goals that were passed are an initial piece of the chain behind the first stage, and
what the chain holds once is passed once.  A call raises the count only from the stage
behind the zero fill, and a boot CPU that was born before that stage got there by a zero
fill that passed.
-/
import Handoff.Processor
import Handoff.Proofs.Attempts

namespace Handoff

/-- How the life of a boot CPU begins on a machine: at the loader's jump, or masked and
on its stack. -/
inductive Progress.Born {σ : Type} (p : Platform σ) (s : σ) : Progress → Prop where
  | start : Born p s .start
  | resume {raw : UInt64} {first : Progress}
      (h : Progress.resume p (.alignDown raw) s = .ok first) : Born p s first

namespace Progress

variable {σ : Type} {p : Platform σ} {s : σ} {first : Progress}

theorem stage_of_resume {top : StackTop} (h : resume p top s = .ok first) :
    first = { stage := .stackEstablished, stackTop := some top } := by
  unfold resume at h
  split at h
  · cases h
  · cases h
    rfl

/-- Nobody is born behind the zero fill. -/
theorem Born.stage_cases (h : first.Born p s) :
    first.stage = .init ∨ first.stage = .stackEstablished := by
  cases h with
  | start => exact Or.inl rfl
  | resume h => exact Or.inr (congrArg stage (stage_of_resume h))

theorem Born.seated (h : first.Born p s) : first.Seated := by
  cases h with
  | start =>
    constructor
    · intro top htop
      cases htop
    · intro hle
      rw [Stage.le_iff_rank] at hle
      exact absurd hle (by decide)
  | @resume raw _ h =>
    rw [stage_of_resume h]
    refine ⟨?_, fun _ => rfl⟩
    rintro top htop
    cases htop
    exact StackTop.alignDown_aligned raw

end Progress

namespace Attempt

variable {σ : Type}

/-- The progress at birth and after each attempt. -/
def history (first : Progress) (as : List (Attempt σ)) : List Progress :=
  first :: as.map fun a => a.after.progress

/-! ### What a linked list of attempts shows -/

namespace Linked

variable {w : Walk (Tallied σ)} {as : List (Attempt (Tallied σ))}

/-- An attempt begins with the progress that the one before it left. -/
theorem unbroken (h : Linked w as) :
    as.map (fun a => a.before.progress) = (history w.progress as).dropLast := by
  induction as generalizing w with
  | nil => rfl
  | cons a as ih =>
    obtain ⟨⟨hbefore, -, -⟩, hrest⟩ := h
    rw [List.map_cons, ih hrest, hbefore]
    rfl

theorem sound (h : Linked w as) : ∀ a ∈ as, a.Sound := by
  induction as generalizing w with
  | nil =>
    intro a ha
    cases ha
  | cons a as ih =>
    obtain ⟨⟨-, -, hsound⟩, hrest⟩ := h
    intro b hb
    rcases List.mem_cons.1 hb with rfl | hlater
    · exact hsound
    · exact ih hrest b hlater

/-- What was passed is an initial piece of the chain behind the first stage. -/
theorem goals_prefix (h : Linked w as) : goals as <+: w.progress.stage.chain.tail := by
  induction as generalizing w with
  | nil => exact List.nil_prefix
  | cons a as ih =>
    obtain ⟨⟨hbefore, -, hsound⟩, hrest⟩ := h
    have hlater := ih hrest
    rw [← hbefore]
    cases hpassed : a.passed with
    | true =>
      obtain ⟨hnext, hafter⟩ := hsound.onward hpassed
      rw [goals_cons, if_pos hpassed, Stage.chain_of_next hnext, List.tail_cons,
        Stage.chain_eq_cons a.goal]
      rw [hafter] at hlater
      exact (List.prefix_cons_inj _).2 hlater
    | false =>
      rw [goals_cons, if_neg (by simp [hpassed]), ← hsound.refused hpassed]
      exact hlater

/-- The stage never goes back. -/
theorem ascending (h : Linked w as) :
    (history w.progress as).Pairwise fun earlier later => earlier.stage ≤ later.stage := by
  induction as generalizing w with
  | nil => exact List.pairwise_singleton _ _
  | cons a as ih =>
    obtain ⟨⟨hbefore, -, hsound⟩, hrest⟩ := h
    have hlater := ih hrest
    have hfirst : w.progress.stage ≤ a.after.progress.stage := hbefore ▸ hsound.stage_le
    refine List.pairwise_cons.2 ⟨?_, hlater⟩
    intro later hmem
    rcases List.mem_cons.1 hmem with rfl | hmem
    · exact hfirst
    · exact Stage.le_trans hfirst ((List.pairwise_cons.1 hlater).1 later hmem)

theorem seated (h : Linked w as) (hw : w.progress.Seated) :
    ∀ progress ∈ history w.progress as, progress.Seated := by
  induction as generalizing w with
  | nil =>
    intro progress hmem
    rw [List.mem_singleton.1 hmem]
    exact hw
  | cons a as ih =>
    obtain ⟨⟨hbefore, -, hsound⟩, hrest⟩ := h
    intro progress hmem
    rcases List.mem_cons.1 hmem with rfl | hlater
    · exact hw
    · exact ih hrest (hsound.seated (hbefore ▸ hw)) progress hlater

/-- The kernel was called as often as a transfer was passed. -/
theorem calls_finish (h : Linked w as) :
    (finish w as).machine.calls = w.machine.calls + (goals as).count .transferred := by
  induction as generalizing w with
  | nil => rfl
  | cons a as ih =>
    obtain ⟨⟨-, hcount, hsound⟩, hrest⟩ := h
    rw [finish, ih hrest, hsound.calls, hcount, goals_cons]
    cases a.passed with
    | true =>
      simp only [Bool.true_and, ↓reduceIte, List.count_cons]
      omega
    | false => simp

/-- A stage that was not there at birth was passed. -/
theorem reached (h : Linked w as) :
    (finish w as).progress.stage = w.progress.stage ∨
      ∃ a ∈ as, a.passed = true ∧ a.goal = (finish w as).progress.stage := by
  induction as generalizing w with
  | nil => exact Or.inl rfl
  | cons a as ih =>
    obtain ⟨⟨hbefore, -, hsound⟩, hrest⟩ := h
    rcases ih hrest with hsame | ⟨b, hb, hpassed, hgoal⟩
    · cases hpassed : a.passed with
      | true =>
        refine Or.inr ⟨a, List.mem_cons_self, hpassed, ?_⟩
        rw [finish, hsame, (hsound.onward hpassed).2]
      | false =>
        refine Or.inl ?_
        rw [finish, hsame, hsound.refused hpassed, hbefore]
    · exact Or.inr ⟨b, List.mem_cons_of_mem _ hb, hpassed, hgoal⟩

end Linked

end Attempt

/-! ### The whole life -/

/-- What holds of all attempts in a life that began with a progress. -/
structure Attempt.Orderly {σ : Type} (first : Progress) (as : List (Attempt (Tallied σ))) :
    Prop where
  /-- Nothing but an attempt changes the progress. -/
  unbroken : as.map (fun a => a.before.progress) = (history first as).dropLast
  /-- Every change of the stage is to its successor. -/
  onward : ∀ a ∈ as, a.after.progress.stage = a.before.progress.stage ∨
    a.before.progress.stage.next = some a.after.progress.stage
  ascending : (history first as).Pairwise fun earlier later => earlier.stage ≤ later.stage
  /-- What was passed lies behind the first stage, in the order of the chain and
  without a gap. -/
  inOrder : goals as <+: first.stage.chain.tail
  once : (goals as).Nodup
  calledOnce : ∀ a ∈ as, a.after.machine.calls ≤ 1
  /-- An attempt that calls the kernel comes after a zero fill that was passed. -/
  calledZeroed : ∀ earlier a later, as = earlier ++ a :: later →
    a.before.machine.calls < a.after.machine.calls →
    ∃ fill ∈ earlier, fill.goal = .zeroFillComplete ∧ fill.passed = true
  /-- From the second stage on there is an aligned stack top. -/
  seated : ∀ progress ∈ history first as, Stage.stackEstablished ≤ progress.stage →
    ∃ top, progress.stackTop = some top ∧ 16 ∣ top.raw.toNat

namespace Attempt.Linked

variable {σ : Type} {w : Walk (Tallied σ)} {as : List (Attempt (Tallied σ))}

/-- The chain holds no goal twice. -/
theorem goals_nodup (h : Linked w as) : (goals as).Nodup := by
  have htail : w.progress.stage.chain.tail.Nodup :=
    (Stage.nodup_chain _).sublist (List.tail_sublist _)
  exact htail.sublist h.goals_prefix.sublist

theorem calls_le_one (h : Linked w as) (hw : w.machine.calls = 0) :
    ∀ a ∈ as, a.after.machine.calls ≤ 1 := by
  intro a ha
  obtain ⟨earlier, later, rfl⟩ := List.append_of_mem ha
  -- the attempts up to this one are linked, too, and end with it
  have hsplit : earlier ++ a :: later = (earlier ++ [a]) ++ later := by simp
  rw [hsplit, Linked.append] at h
  have hend : finish w (earlier ++ [a]) = a.after := finish_append w earlier [a]
  have hcalls := h.1.calls_finish
  rw [hend, hw, Nat.zero_add] at hcalls
  rw [hcalls]
  exact List.nodup_iff_count.1 h.1.goals_nodup _

/-- The count is raised only from the stage behind the zero fill. -/
theorem fill_before_call (h : Linked w as) (hw : w.progress.stage ≠ .zeroFillComplete)
    {earlier later : List (Attempt (Tallied σ))} {a : Attempt (Tallied σ)}
    (has : as = earlier ++ a :: later) (hcall : a.before.machine.calls < a.after.machine.calls) :
    ∃ fill ∈ earlier, fill.goal = .zeroFillComplete ∧ fill.passed = true := by
  rw [has, Linked.append] at h
  obtain ⟨hearlier, ⟨hbefore, -, hsound⟩, -⟩ := h
  have hcounted : (a.passed && a.goal == .transferred) = true := by
    by_cases hp : (a.passed && a.goal == .transferred) = true
    · exact hp
    · have hcalls := hsound.calls
      rw [if_neg hp] at hcalls
      omega
  obtain ⟨hpassed, hgoal⟩ := Bool.and_eq_true_iff.1 hcounted
  have hnext := (hsound.onward hpassed).1
  have hstage : (finish w earlier).progress.stage = .zeroFillComplete := by
    rw [← hbefore]
    exact Stage.eq_of_next_transferred ((beq_iff_eq.1 hgoal) ▸ hnext)
  rcases hearlier.reached with hsame | ⟨fill, hmem, hfilled, hfill⟩
  · exact absurd (hsame.symm.trans hstage) hw
  · exact ⟨fill, hmem, hfill.trans hstage, hfilled⟩

end Attempt.Linked

/-- **The life of a boot CPU is orderly** on every checked platform, whichever way it
begins and whatever is tried on it in whatever order. -/
theorem Deed.life_orderly {σ : Type} {p : Platform σ} (hchecks : p.checks = true) {s : σ}
    {first : Progress} (hborn : first.Born p s) (deeds : List (Deed σ)) :
    Attempt.Orderly first
      (life p deeds { progress := first, machine := { machine := s, calls := 0 } }) := by
  have hlinked := linked_life hchecks deeds
    { progress := first, machine := { machine := s, calls := 0 } }
  have hstage : first.stage ≠ .zeroFillComplete := by
    rcases hborn.stage_cases with h | h <;> rw [h] <;> decide
  exact
    { unbroken := hlinked.unbroken
      onward := fun a ha => (hlinked.sound a ha).stage_cases
      ascending := hlinked.ascending
      inOrder := hlinked.goals_prefix
      once := hlinked.goals_nodup
      calledOnce := hlinked.calls_le_one rfl
      calledZeroed := fun _ _ _ has hcall => hlinked.fill_before_call hstage has hcall
      seated := fun progress hmem hle => (hlinked.seated hborn.seated progress hmem).top hle }

/-- Steps too early, twice and too late, and interrupts enabled right before a call. -/
def Deed.astray : List (Deed Machine) :=
  [.establish 0x8008, .mask, .mask, .establish 0x8008, .transfer 0x2000 id,
    .zeroFill ⟨0x1010, 0x1000⟩, .zeroFill ⟨0x1000, 0x1010⟩, .outside Machine.unmask,
    .transfer 0x2000 id, .outside Machine.mask, .transfer 0x2000 Machine.unmask,
    .transfer 0x2000 id, .run ⟨0x1000, 0x1010⟩ 0x2000 id [false]]

theorem Deed.life_orderly_astray :
    let as := life (Build.debug.platform .recording) astray
      { progress := .start
        machine :=
          { machine := { flags := ⟨0x202⟩, memory := .absent, console := .idle false }
            calls := 0 } }
    Attempt.goals as = [.interruptsMasked, .stackEstablished, .zeroFillComplete, .transferred] ∧
      (as.filter fun a => !a.passed).length = 7 ∧ Attempt.Orderly .start as :=
  ⟨by decide, by decide, life_orderly rfl .start astray⟩

end Handoff
