/-
Where no check fires, the checks cannot be told from the outside.

If none of the assertions of the checked build fires in a session, the unchecked build
answers every step alike, and leaves the same progress, flags and memory.  What is left
of the difference is chatter: the record of each finished zero fill, and the place where
a cold port is initialised, which is the first record that is kept.
-/
import Mathlib.Data.List.Forall2
import Handoff.Proofs.Alike
import Handoff.Proofs.Port

namespace Handoff

/-! ### Sessions -/

/-- Whether the answer tells of a fault of the hand-off. -/
def Answer.isFault : Answer → Bool
  | .fault _ => true
  | _ => false

/-- Whether the step is none but a record of a level that every build keeps. -/
def Step.loud : Step → Bool
  | .log level _ _ => level.enabled false
  | _ => true

/-- The same progress, if any, on machines that are alike. -/
structure Session.Alike (s t : Session) : Prop where
  progress : s.progress = t.progress
  machine : s.machine.Alike t.machine

namespace Session

variable {s t : Session}

/-- The same answer, and sessions that are alike. -/
def AlikeTaken (taken taken' : Answer × Session) : Prop :=
  taken.1 = taken'.1 ∧ taken.2.Alike taken'.2

theorem Alike.walk (h : s.Alike t) {x y : Boot Machine Unit} (hxy : x.Follows y) (done : Answer)
    (last : Bool) (hfault : (s.walk done last x).1.isFault = false) :
    AlikeTaken (s.walk done last x) (t.walk done last y) := by
  unfold Session.walk at hfault ⊢
  rw [← h.progress]
  cases hprogress : s.progress with
  | none => exact ⟨rfl, h⟩
  | some progress =>
    rw [hprogress] at hfault
    simp only at hfault ⊢
    cases hrun : x { progress, machine := s.machine } with
    | ok _ w =>
      obtain ⟨v, hv, halike⟩ :=
        hxy { progress, machine := s.machine } { progress, machine := t.machine }
          ⟨rfl, h.machine⟩ _ w hrun
      rw [hv]
      refine ⟨rfl, ?_, halike.machine⟩
      simp only [halike.progress]
    | error cause w =>
      rw [hrun] at hfault
      cases hfault

theorem Alike.walkOver (h : s.Alike t) {x y : Span → Boot Machine Unit}
    (hxy : ∀ span, (x span).Follows (y span)) (extent : Extent) (done : Answer) (last : Bool)
    (hfault : (s.walkOver extent done last x).1.isFault = false) :
    AlikeTaken (s.walkOver extent done last x) (t.walkOver extent done last y) := by
  unfold Session.walkOver at hfault ⊢
  rw [← h.progress, ← h.machine.memory]
  cases hprogress : s.progress with
  | none => exact ⟨rfl, h⟩
  | some progress =>
    cases hspan : extent.span s.machine.memory with
    | error cause => exact ⟨rfl, h⟩
    | ok span =>
      rw [hprogress, hspan] at hfault
      exact h.walk (hxy span) done last hfault

theorem Alike.touch (h : s.Alike t) {f g : Machine → Machine}
    (hfg : (f s.machine).Alike (g t.machine)) : (s.touch f).Alike (t.touch g) :=
  ⟨h.progress, hfg⟩

/-- A record of a level that every build keeps ends alike in both builds, and formats as
many messages. -/
theorem Alike.emit (h : s.Alike t) (b : Build) {level : Level}
    (hlevel : level.enabled false = true) (target : String) (msg : Message) :
    AlikeTaken (s.emit (b.checked.log level target msg))
      (t.emit (b.unchecked.log level target msg)) := by
  have hdrops := b.drops_checked hlevel h.machine
  unfold Session.emit
  rw [Build.log_eq, Build.log_eq, ← hdrops]
  by_cases hdrop : b.checked.drops level s.machine = true
  · rw [if_pos hdrop, if_pos hdrop]
    refine ⟨?_, h⟩
    simp only [Nat.sub_self]
  · rw [if_neg hdrop, if_neg hdrop]
    cases msg.ending with
    | ok _ =>
      refine ⟨?_, h.progress, h.machine.recorded _ _⟩
      simp only [Machine.recorded, Nat.add_sub_cancel_left]
    | error fault =>
      refine ⟨?_, h.progress, h.machine.recorded _ _⟩
      simp only [Machine.recorded, Nat.add_sub_cancel_left]

/-- A step that shows no fault in the checked build is the same step in the other. -/
theorem Alike.step (h : s.Alike t) (b : Build) (cpu : Processor) {step : Step}
    (hloud : step.loud = true) (hfault : (s.step b.checked cpu step).1.isFault = false) :
    AlikeTaken (s.step b.checked cpu step) (t.step b.unchecked cpu step) := by
  have hpq := b.platform_alike cpu
  cases step with
  | start => exact ⟨rfl, rfl, h.machine⟩
  | resume top =>
    simp only [Session.step] at hfault ⊢
    cases hresume : Progress.resume (b.checked.platform cpu) (.alignDown top) s.machine with
    | ok progress =>
      rw [Boot.resume_follows hpq hresume]
      exact ⟨rfl, rfl, h.machine⟩
    | error cause =>
      rw [hresume] at hfault
      cases hfault
  | mask => exact h.walk (Boot.follows_maskInterrupts hpq) _ _ hfault
  | establish top => exact h.walk (Boot.follows_establishStack hpq _) _ _ hfault
  | zeroFill extent => exact h.walkOver (Boot.follows_zeroFill hpq) extent _ _ hfault
  | transfer address actions =>
    exact h.walk (Boot.follows_transfer hpq address actions) _ _ hfault
  | halt wakes => exact h.walk (Boot.follows_halt hpq wakes) _ _ hfault
  | run extent address actions wakes =>
    exact h.walkOver (fun span => Boot.follows_run hpq span address actions wakes) extent _ _ hfault
  | act action => exact ⟨rfl, h.progress, h.machine.act action⟩
  | maskProcessor => exact ⟨rfl, h.touch (hpq.mask _ _ h.machine)⟩
  | askInterrupts => exact ⟨congrArg Answer.truth (hpq.interruptsEnabled _ _ h.machine), h⟩
  | readFlags =>
    refine ⟨congrArg Answer.flags ?_, h⟩
    unfold Machine.nativeFlags
    rw [h.machine.flags]
    rfl
  | haltProcessor wake =>
    cases wake with
    | none => exact ⟨rfl, h.touch (hpq.halt _ _ _ h.machine)⟩
    | some wake => exact ⟨rfl, h.touch (hpq.halt wake _ _ h.machine)⟩
  | zeroBytes start length => exact ⟨rfl, h.touch (hpq.zero start length _ _ h.machine)⟩
  | log level target message => exact h.emit b hloud target message

end Session

/-! ### Whole sessions -/

/-- All that shows after a step is the same but for the chatter. -/
structure Report.Alike (r r' : Report) : Prop where
  answer : r.answer = r'.answer
  stage : r.stage = r'.stage
  stackTop : r.stackTop = r'.stackTop
  flags : r.flags = r'.flags
  events : Event.Muted r.events r'.events

namespace Session

theorem Alike.report {s t : Session} (h : s.Alike t) (answer : Answer) :
    (s.report answer).Alike (t.report answer) where
  answer := rfl
  stage := congrArg (Option.map Progress.stage) h.progress
  stackTop := congrArg (Option.bind · Progress.stackTop) h.progress
  flags := h.machine.flags
  events := h.machine.events

/-- Sessions that are alike stay so, and report alike, step after step. -/
theorem Alike.run (b : Build) (cpu : Processor) {s t : Session} (h : s.Alike t)
    {steps : List Step} (hloud : ∀ step ∈ steps, step.loud = true)
    (hfault : ∀ r ∈ (s.run b.checked cpu steps).1, r.answer.isFault = false) :
    List.Forall₂ Report.Alike (s.run b.checked cpu steps).1 (t.run b.unchecked cpu steps).1 ∧
      (s.run b.checked cpu steps).2.Alike (t.run b.unchecked cpu steps).2 := by
  induction steps generalizing s t with
  | nil => exact ⟨.nil, h⟩
  | cons step steps ih =>
    have hclean : s.clearEvents.Alike t.clearEvents :=
      h.touch { h.machine with events := .nil }
    obtain ⟨hanswer, hnext⟩ := hclean.step b cpu (hloud step List.mem_cons_self)
      (hfault _ List.mem_cons_self)
    obtain ⟨hreports, hend⟩ := ih hnext (fun step hstep => hloud step (List.mem_cons_of_mem _ hstep))
      fun r hr => hfault r (List.mem_cons_of_mem _ hr)
    refine ⟨.cons ?_ hreports, hend⟩
    rw [hanswer]
    exact hnext.report _

/-- What two builds show of one session when nothing but chatter parts them. -/
structure Undetected (s : Session) (checked unchecked : List Report × Session) : Prop where
  reports : List.Forall₂ Report.Alike checked.1 unchecked.1
  progress : checked.2.progress = unchecked.2.progress
  memory : checked.2.machine.memory = unchecked.2.machine.memory
  flags : checked.2.machine.flags = unchecked.2.machine.flags
  /-- Either build initialises a cold port once at most, and a warm one never. -/
  inits : (checked.1.flatMap Report.events).countP Event.isInit ≤ s.machine.console.due ∧
    (unchecked.1.flatMap Report.events).countP Event.isInit ≤ s.machine.console.due

/-- **Checks that do not fire go undetected**: a session that meets no fault in the checked
build is the same session in the unchecked one, but for the chatter. -/
theorem run_undetected (b : Build) (cpu : Processor) (s : Session) {steps : List Step}
    (hloud : ∀ step ∈ steps, step.loud = true)
    (hfault : ∀ r ∈ (s.run b.checked cpu steps).1, r.answer.isFault = false) :
    Undetected s (s.run b.checked cpu steps) (s.run b.unchecked cpu steps) := by
  have hself : s.Alike s := ⟨rfl, .refl _⟩
  obtain ⟨hreports, hend⟩ := hself.run b cpu hloud hfault
  exact
    { reports := hreports
      progress := hend.progress
      memory := hend.machine.memory
      flags := hend.machine.flags
      inits := by
        have hchecked := s.inits_run b.checked cpu steps
        have hunchecked := s.inits_run b.unchecked cpu steps
        omega }

/-- On a cold port: a zero fill, records that fail to be formatted or raise a fault, and a
kernel that returns with interrupts enabled. -/
def coldBoot : List Step :=
  [.resume 0x8008, .zeroFill (.raw 0x1000 0x1008),
    .log .warn "test" (.write "lost" (.emit .debug "inner" .done .fail)),
    .log .error "test" (.raise none .done), .transfer 0x2000 [.enableInterrupts],
    .halt [true, false]]

theorem run_undetected_coldBoot :
    let s := Session.powerOn
      { flags := ⟨0x2⟩, memory := ⟨0x1000, #[1, 2, 3, 4, 5, 6, 7, 8, 9]⟩, console := .idle false }
    (s.run Build.metalDebug.checked .native coldBoot).1 ≠
        (s.run Build.metalDebug.unchecked .native coldBoot).1 ∧
      Undetected s (s.run Build.metalDebug.checked .native coldBoot)
        (s.run Build.metalDebug.unchecked .native coldBoot) :=
  ⟨by decide, run_undetected _ _ _ (by decide) (by decide)⟩

end Session

end Handoff
