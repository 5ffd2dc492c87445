/-
What a checked build and an unchecked one do to machines that differ in chatter only.

The two builds part at every assertion, at every subtraction and at every record of the
two chatty levels.  `Event.Muted` allows histories to differ in the record of a finished
zero fill and in the place where the port is initialised, `Machine.Alike` says that
nothing else of two machines differs but the count of formatted messages, and every
operation on the machine keeps the two alike.  Every step of the hand-off that ends well
in the checked build then ends well in the other one, with the same progress and machines
that are alike again.
-/
import Handoff.Actions
import Handoff.Proofs.Processor
import Handoff.Proofs.Steps

namespace Handoff

/-! ### Histories without their chatter -/

/-- What the checked build says after a zero fill, and no other build does. -/
def Boot.chatter (start length : UInt64) : List Event :=
  (Message.ofText (zeroFillText start length)).spoken .debug target

/-- The second history is the first without its chatter; where the port is initialised
does not matter. -/
inductive Event.Muted : List Event → List Event → Prop where
  | nil : Muted [] []
  | same (e : Event) {es fs : List Event} : Muted es fs → Muted (e :: es) (e :: fs)
  | chatter (start length : UInt64) {es fs : List Event} :
      Muted es fs → Muted (Boot.chatter start length ++ es) fs
  | initLeft (port : UInt16) {es fs : List Event} : Muted es fs → Muted (.serialInit port :: es) fs
  | initRight (port : UInt16) {es fs : List Event} : Muted es fs → Muted es (.serialInit port :: fs)

namespace Event.Muted

theorem refl (es : List Event) : Muted es es := by
  induction es with
  | nil => exact .nil
  | cons e es ih => exact .same e ih

theorem append {es fs es' fs' : List Event} (h : Muted es fs) (h' : Muted es' fs') :
    Muted (es ++ es') (fs ++ fs') := by
  induction h with
  | nil => exact h'
  | same e _ ih => exact .same e ih
  | chatter start length _ ih =>
    rw [List.append_assoc]
    exact .chatter start length ih
  | initLeft port _ ih => exact .initLeft port ih
  | initRight port _ ih => exact .initRight port ih

/-- Two ports may be initialised or not. -/
theorem warmUp (m n : Machine) : Muted m.warmUp n.warmUp := by
  unfold Machine.warmUp
  split <;> split
  · exact .nil
  · exact .initRight _ .nil
  · exact .initLeft _ .nil
  · exact .same _ .nil

end Event.Muted

/-! ### Machines that differ in chatter only -/

/-- Nothing but chatter distinguishes the machines. -/
structure Machine.Alike (m n : Machine) : Prop where
  flags : m.flags = n.flags
  memory : m.memory = n.memory
  locked : m.console.locked = n.console.locked
  stackPointer : m.stackPointer = n.stackPointer
  maskable : m.maskable = n.maskable
  events : Event.Muted m.events n.events

namespace Machine.Alike

variable {m n : Machine}

theorem refl (m : Machine) : m.Alike m where
  flags := rfl
  memory := rfl
  locked := rfl
  stackPointer := rfl
  maskable := rfl
  events := .refl _

theorem note (h : m.Alike n) (e : Event) : (m.note e).Alike (n.note e) :=
  { h with events := h.events.append (.refl [e]) }

theorem mask (h : m.Alike n) : m.mask.Alike n.mask := by
  have hnote := h.note .mask
  unfold Machine.mask
  simp only
  by_cases hmaskable : (m.note .mask).maskable = true
  · rw [if_pos hmaskable, if_pos (hnote.maskable ▸ hmaskable)]
    exact { hnote with flags := congrArg (Flags.diff · .interruptEnable) hnote.flags }
  · rw [if_neg hmaskable, if_neg (hnote.maskable ▸ hmaskable)]
    exact hnote

theorem unmask (h : m.Alike n) : m.unmask.Alike n.unmask :=
  { h with flags := congrArg (Flags.union · .interruptEnable) h.flags }

theorem halt (h : m.Alike n) (wake : Bool) : (m.halt wake).Alike (n.halt wake) := by
  cases wake with
  | true => exact (h.note .halt).unmask
  | false => exact h.note .halt

theorem act (h : m.Alike n) (action : Action) : (m.act action).Alike (n.act action) := by
  cases action with
  | enableInterrupts => exact h.unmask
  | setFlags flags => exact { h with flags := rfl }
  | poke address byte count =>
    exact { h with memory := congrArg (Memory.fill · address count byte) h.memory }

theorem acts (h : m.Alike n) (actions : List Action) :
    (actions.foldl Machine.act m).Alike (actions.foldl Machine.act n) := by
  induction actions generalizing m n with
  | nil => exact h
  | cons action actions ih => exact ih (h.act action)

theorem enterKernel (h : m.Alike n) : m.enterKernel.Alike n.enterKernel := by
  unfold Machine.enterKernel Machine.interruptsEnabled
  rw [h.flags, h.memory]
  exact h.note _

theorem zeroDirectly (h : m.Alike n) (start length : UInt64) :
    (m.zeroDirectly start length).Alike (n.zeroDirectly start length) :=
  { h with memory := congrArg (Memory.fill · start length.toNat 0) h.memory }

theorem zeroByStringStore (h : m.Alike n) (start length : UInt64) :
    (m.zeroByStringStore start length).Alike (n.zeroByStringStore start length) :=
  { h with memory := congrArg (Memory.storeString · start 0 length.toNat) h.memory }

/-- The same record on both machines. -/
theorem recorded (h : m.Alike n) (spoken : List Event) (locked : Bool) :
    (m.recorded spoken locked).Alike (n.recorded spoken locked) where
  flags := h.flags
  memory := h.memory
  locked := rfl
  stackPointer := h.stackPointer
  maskable := h.maskable
  events := (h.events.append (.warmUp m n)).append (.refl spoken)

/-- Chatter on the first machine alone. -/
theorem recorded_left (h : m.Alike n) (hlocked : m.console.locked = false) (start length : UInt64) :
    (m.recorded (Boot.chatter start length) false).Alike n where
  flags := h.flags
  memory := h.memory
  locked := hlocked.symm.trans h.locked
  stackPointer := h.stackPointer
  maskable := h.maskable
  events := by
    have hwarm : Event.Muted m.warmUp [] := by
      unfold Machine.warmUp
      split
      · exact .nil
      · exact .initLeft _ .nil
    have hchatter : Event.Muted (Boot.chatter start length) [] := by
      rw [← List.append_nil (Boot.chatter start length)]
      exact .chatter start length .nil
    have hall := (h.events.append hwarm).append hchatter
    rw [List.append_nil, List.append_nil] at hall
    exact hall

end Machine.Alike

/-! ### The two builds -/

/-- The build with its assertions and overflow checks. -/
def Build.checked (b : Build) : Build := { b with checks := true }

/-- The build without them. -/
def Build.unchecked (b : Build) : Build := { b with checks := false }

example : Build.debug.checked = .debug ∧ Build.debug.unchecked = .release := ⟨rfl, rfl⟩

example : Build.metalDebug.checked = .metalDebug ∧ Build.metalDebug.unchecked = .metalRelease :=
  ⟨rfl, rfl⟩

/-- Two platforms of which the first checks, whose operations keep machines alike. -/
structure Platform.Alike (p q : Platform Machine) : Prop where
  checks_left : p.checks = true
  checks_right : q.checks = false
  mask : ∀ m n, m.Alike n → (p.maskInterrupts m).Alike (q.maskInterrupts n)
  interruptsEnabled : ∀ m n, m.Alike n → p.interruptsEnabled m = q.interruptsEnabled n
  halt : ∀ wake m n, m.Alike n → (p.halt wake m).Alike (q.halt wake n)
  zero : ∀ start length m n, m.Alike n →
    (p.zeroBytes start length m).Alike (q.zeroBytes start length n)
  report : ∀ level target text m n, level.enabled false = true → m.Alike n →
    (p.report level target text m).Alike (q.report level target text n)
  chatter : ∀ start length m n, m.Alike n →
    (p.report .debug Boot.target (Boot.zeroFillText start length) m).Alike
      (q.report .debug Boot.target (Boot.zeroFillText start length) n)

namespace Build

variable (b : Build) {level : Level} {m n : Machine}

/-- A level that is kept without the checks is kept with them. -/
theorem drops_checked (hlevel : level.enabled false = true) (h : m.Alike n) :
    b.checked.drops level m = b.unchecked.drops level n := by
  have hkeeps : b.checked.keeps level = b.unchecked.keeps level := by
    unfold keeps
    cases level <;> first | rfl | cases hlevel
  rw [drops, drops, hkeeps, h.locked]

theorem logText_alike (hlevel : level.enabled false = true) (target text : String)
    (h : m.Alike n) :
    (b.checked.logText level target text m).Alike (b.unchecked.logText level target text n) := by
  rw [logText_eq, logText_eq, b.drops_checked hlevel h]
  split
  · exact h
  · exact h.recorded _ false

/-- The record of a zero fill is the first machine's alone. -/
theorem logText_chatter (start length : UInt64) (h : m.Alike n) :
    (b.checked.logText .debug Boot.target (Boot.zeroFillText start length) m).Alike
      (b.unchecked.logText .debug Boot.target (Boot.zeroFillText start length) n) := by
  have hright : b.unchecked.drops .debug n = true := by
    simp [drops, keeps, unchecked, Level.enabled]
  rw [logText_eq, logText_eq, if_pos hright]
  by_cases hdrop : b.checked.drops .debug m = true
  · rw [if_pos hdrop]
    exact h
  · rw [if_neg hdrop]
    have hfree : m.console.locked = false := by
      rw [drops, Bool.or_eq_true, not_or] at hdrop
      exact Bool.eq_false_iff.2 hdrop.2
    exact h.recorded_left hfree start length

/-- The checks change nothing about the processor. -/
theorem operations_checked (cpu : Processor) :
    (b.checked.platform cpu).maskInterrupts = (b.unchecked.platform cpu).maskInterrupts ∧
      (b.checked.platform cpu).interruptsEnabled = (b.unchecked.platform cpu).interruptsEnabled ∧
      (b.checked.platform cpu).halt = (b.unchecked.platform cpu).halt ∧
      (b.checked.platform cpu).zeroBytes = (b.unchecked.platform cpu).zeroBytes := by
  obtain ⟨checks, target, unwinds⟩ := b
  cases cpu <;> cases target <;> exact ⟨rfl, rfl, rfl, rfl⟩

theorem platform_alike (cpu : Processor) :
    (b.checked.platform cpu).Alike (b.unchecked.platform cpu) := by
  obtain ⟨hmask, hread, hhalt, hzero⟩ := b.operations_checked cpu
  constructor
  case checks_left => exact b.checked.checks_platform cpu
  case checks_right => exact b.unchecked.checks_platform cpu
  case mask =>
    intro m n h
    rw [hmask]
    rcases b.unchecked.maskInterrupts_cases cpu with heq | heq
    · rw [heq]
      exact h.mask
    · rw [heq]
      exact h
  case interruptsEnabled =>
    intro m n h
    rw [hread]
    exact b.unchecked.interruptsEnabled_congr cpu h.flags
  case halt =>
    intro wake m n h
    rw [hhalt]
    rcases b.unchecked.halt_cases cpu with heq | heq
    · rw [heq]
      exact h.halt wake
    · rw [heq]
      exact h
  case zero =>
    intro start length m n h
    rw [hzero]
    rcases b.unchecked.zeroBytes_cases cpu start length with heq | heq | heq
    · rw [heq]
      exact (h.note _).zeroDirectly start length
    · rw [heq]
      exact h.zeroByStringStore start length
    · rw [heq]
      exact h.zeroDirectly start length
  case report =>
    intro level target text m n hlevel h
    rw [report_platform, report_platform]
    exact b.logText_alike hlevel target text h
  case chatter =>
    intro start length m n h
    rw [report_platform, report_platform]
    exact b.logText_chatter start length h

end Build

/-! ### The steps of the hand-off -/

/-- The same progress on machines that are alike. -/
structure Walk.Alike (w v : Walk Machine) : Prop where
  progress : w.progress = v.progress
  machine : w.machine.Alike v.machine

namespace Boot

/-- What ends well on one walk ends well on every walk that is alike, and alike again. -/
def Follows {α : Type} (x y : Boot Machine α) : Prop :=
  ∀ w v, w.Alike v → ∀ a w', x w = .ok a w' → ∃ v', y v = .ok a v' ∧ w'.Alike v'

theorem Follows.bind {α β : Type} {x y : Boot Machine α} {f g : α → Boot Machine β}
    (hxy : x.Follows y) (hfg : ∀ a, (f a).Follows (g a)) : (x >>= f).Follows (y >>= g) := by
  intro w v h b u hrun
  obtain ⟨a, w', hx, hf⟩ := bind_ok_iff.1 hrun
  obtain ⟨v', hy, halike⟩ := hxy w v h a w' hx
  obtain ⟨u', hg, hend⟩ := hfg a w' v' halike b u hf
  exact ⟨u', bind_ok_iff.2 ⟨a, v', hy, hg⟩, hend⟩

theorem follows_onMachine {f g : Machine → Machine} (hfg : ∀ m n, m.Alike n → (f m).Alike (g n)) :
    (onMachine f).Follows (onMachine g) := by
  intro w v h a w' hrun
  cases hrun
  exact ⟨_, rfl, h.progress, hfg _ _ h.machine⟩

variable {p q : Platform Machine} (hpq : p.Alike q)
include hpq

/-- The order that the first platform has checked the second takes for granted. -/
theorem follows_advance (taken : Stage) : (advance p taken).Follows (advance q taken) := by
  intro w v h a w' hrun
  rw [advance_eq] at hrun
  split at hrun
  · cases hrun
  · cases hrun
    refine ⟨_, advance_of_unchecked hpq.checks_right, ?_, h.machine⟩
    rw [h.progress]

/-- Without the check a boot CPU is resumed on any machine. -/
theorem resume_follows {top : StackTop} {m n : Machine} {first : Progress}
    (h : Progress.resume p top m = .ok first) : Progress.resume q top n = .ok first := by
  have hright : Progress.resume q top n = .ok ⟨.stackEstablished, some top⟩ := by
    rw [Progress.resume, hpq.checks_right, Bool.false_and, if_neg Bool.false_ne_true]
  unfold Progress.resume at h
  split at h
  · cases h
  · rw [hright, ← h]

theorem follows_report {level : Level} (hlevel : level.enabled false = true) (text : String) :
    (report p level text).Follows (report q level text) :=
  follows_onMachine fun m n h => hpq.report level target text m n hlevel h

theorem follows_maskInterrupts : (maskInterrupts p).Follows (maskInterrupts q) :=
  (follows_onMachine hpq.mask).bind fun _ => follows_advance hpq _

theorem follows_establishStack (top : StackTop) :
    (establishStack p top).Follows (establishStack q top) := by
  intro w v h a w' hrun
  have hnoted : Walk.Alike { w with progress := { w.progress with stackTop := some top } }
      { v with progress := { v.progress with stackTop := some top } } :=
    ⟨by rw [h.progress], h.machine⟩
  rw [establishStack_eq] at hrun ⊢
  exact follows_advance hpq _ _ _ hnoted a w' hrun

theorem follows_zeroFill (span : Span) : (zeroFill p span).Follows (zeroFill q span) := by
  intro w v h a w' hrun
  by_cases hspan : span.stop < span.start
  · rw [zeroFill_inverted p w hpq.checks_left hspan] at hrun
    cases hrun
  · have hzeroed : Walk.Alike { w with machine := p.zeroed span w.machine }
        { v with machine := q.zeroed span v.machine } := by
      refine ⟨h.progress, ?_⟩
      unfold Platform.zeroed
      split
      · exact h.machine
      · exact hpq.zero _ _ _ _ h.machine
    rw [zeroFill_eq p w (Or.inr (UInt64.not_lt.1 hspan))] at hrun
    rw [zeroFill_eq q v (Or.inl hpq.checks_right)]
    exact (follows_advance hpq _).bind
      (fun _ => follows_onMachine (hpq.chatter _ _)) _ _ hzeroed a w' hrun

theorem follows_depart (address : UInt64) : (depart p address).Follows (depart q address) := by
  intro w v h a w' hrun
  rw [depart_eq] at hrun
  split at hrun
  · cases hrun
  · rw [depart_eq, if_neg (by simp [hpq.checks_right])]
    exact (follows_advance hpq _).bind (fun _ => follows_report hpq rfl _) w v h a w' hrun

theorem follows_transfer (address : UInt64) (actions : List Action) :
    (transfer p (.ofActions address actions)).Follows (transfer q (.ofActions address actions)) := by
  refine (follows_depart hpq address).bind fun _ w v h a w' hrun => ?_
  rw [call_of_ok (show (Kernel.ofActions address actions).code w.machine =
    .ok () (actions.foldl Machine.act w.machine.enterKernel) from rfl)] at hrun
  cases hrun
  exact ⟨_, call_of_ok rfl, h.progress, h.machine.enterKernel.acts actions⟩

theorem follows_halt (wakes : List Bool) : (halt p wakes).Follows (halt q wakes) := by
  have hloop (m n : Machine) (h : m.Alike n) : (p.haltLoop wakes m).Alike (q.haltLoop wakes n) := by
    unfold Platform.haltLoop
    induction wakes generalizing m n with
    | nil => exact h
    | cons wake wakes ih => exact ih _ _ (hpq.halt wake _ _ (hpq.mask _ _ h))
  exact (follows_advance hpq _).bind fun _ =>
    (follows_report hpq rfl _).bind fun _ => follows_onMachine hloop

theorem follows_run (span : Span) (address : UInt64) (actions : List Action) (wakes : List Bool) :
    (run p span (.ofActions address actions) wakes).Follows
      (run q span (.ofActions address actions) wakes) :=
  (follows_zeroFill hpq span).bind fun _ =>
    (follows_transfer hpq address actions).bind fun _ => follows_halt hpq wakes

end Boot

end Handoff
