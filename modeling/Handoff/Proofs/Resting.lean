/-
Where a boot has ended, the machine rests.

There are two places where it ends, behind the last step and in the fault handler, and the
loop is the same in both: mask, halt, and again.  A halt may wake with interrupts enabled, so
that they are masked is nothing that the loop keeps.  It is true at every halt because the
masking stands right before it, whatever the last wake left.  What the loop does keep is all
else of the machine but its history, and the rule of the loop shows both at every halt.

Before the loop each of the two has spoken.  The last step has made one record.  The handler
has masked and reported, and once more for every fault that its report raised, but no such
fault leads past the loop.
-/
import Handoff.Proofs.Parked
import Handoff.Proofs.Traced

namespace Handoff

/-! ### In the loop -/

namespace Platform

/-- The second machine is what a halt loop that was entered on the first has come to, watched
for some halts. -/
structure Rests (p : Platform Machine) (wakes : List Bool) (m n : Machine) : Prop where
  /-- Nothing is seen of the loop but one masking and one halt after the other. -/
  events : n.events = m.events ++ (List.replicate wakes.length [Event.mask, .halt]).flatten
  settled : m.Settled n
  traced : (p.traced.haltLoop wakes (.fresh m)).machine = n
  orders : (p.traced.haltLoop wakes (.fresh m)).orders = loopOrders wakes.length
  /-- Every halt finds interrupts masked, and nothing else changed. -/
  halts : ∀ call ∈ (p.traced.haltLoop wakes (.fresh m)).calls, call.order = .halt →
    call.found.interruptsEnabled = false ∧ m.Settled call.found
  /-- It was the watch that ended and not the loop: a longer one sees it go on from here. -/
  goesOn : ∀ more, p.haltLoop (wakes ++ more) m = p.haltLoop more n

/-- A machine that can be masked rests in the halt loop of a faithful processor. -/
theorem rests_haltLoop {b : Build} {cpu : Processor} (hcpu : b.Faithful cpu) (wakes : List Bool)
    {m : Machine} (hmaskable : m.maskable = true) :
    (b.platform cpu).Rests wakes m ((b.platform cpu).haltLoop wakes m) := by
  have hmask : ∀ s, m.Settled s →
      ((b.platform cpu).maskInterrupts s).interruptsEnabled = false ∧
        m.Settled ((b.platform cpu).maskInterrupts s) := by
    intro s hs
    rw [hcpu.maskInterrupts_eq]
    refine ⟨?_, hs.mask⟩
    rw [Machine.interruptsEnabled, s.flags_mask (hs.maskable.trans hmaskable)]
    exact Flags.masked_diff _
  have hhalt : ∀ wake s, s.interruptsEnabled = false ∧ m.Settled s →
      m.Settled ((b.platform cpu).halt wake s) := by
    intro wake s hs
    rw [hcpu.halt_eq]
    exact hs.2.halt wake
  have hcalls :=
    ((b.platform cpu).haltLoop_rule hmask hhalt wakes (t := .fresh m) (.refl m)).2
  constructor
  case events =>
    rw [events_haltLoop hcpu, List.flatMap_def, List.map_const']
  case settled => exact settled_haltLoop hcpu wakes (.refl m)
  case traced => exact ((b.platform cpu).haltLoop_untraced wakes (.fresh m)).symm
  case orders =>
    rw [orders_haltLoop, Traced.orders_fresh, List.nil_append]
  case halts =>
    intro call hcall horder
    rcases hcalls call hcall with hbefore | ⟨hmasking, -⟩ | ⟨-, hfound⟩
    · cases hbefore
    · rw [horder] at hmasking
      cases hmasking
    · exact hfound
  case goesOn =>
    intro more
    exact List.foldl_append

end Platform

/-! ### The way to it through the fault handler -/

/-- From the first machine to the second nothing was seen but maskings and serial output. -/
structure Machine.Announced (m n : Machine) : Prop where
  events : Shows (fun e => e = .mask ∨ e.isSerial = true) m n
  memory : n.memory = m.memory
  maskable : n.maskable = m.maskable

namespace Machine.Announced

variable {m n : Machine}

theorem trans {k : Machine} (h : m.Announced n) (h' : n.Announced k) : m.Announced k :=
  ⟨h.events.trans h'.events, h'.memory.trans h.memory, h'.maskable.trans h.maskable⟩

theorem mask (m : Machine) : m.Announced m.mask := by
  refine ⟨⟨[.mask], ?_, m.events_mask⟩, m.memory_mask, m.maskable_mask⟩
  intro e he
  exact Or.inl (List.mem_singleton.1 he)

theorem of_spoke (h : m.Spoke n) (hmemory : n.memory = m.memory) : m.Announced n := by
  obtain ⟨said, hsaid, hevents⟩ := h.events
  exact ⟨⟨said, fun e he => Or.inr (hsaid e he), hevents⟩, hmemory, h.maskable⟩

/-- A record announces, however it ends. -/
theorem log (b : Build) (level : Level) (target : String) (msg : Message) (m : Machine) :
    match b.log level target msg m with
    | .ok _ n => m.Announced n
    | .error _ n => m.Announced n := by
  have hrecorded : ∀ locked, m.Announced (m.recorded (msg.spoken level target) locked) :=
    fun locked => of_spoke (.recorded m level target msg locked) rfl
  rw [b.log_eq]
  by_cases hdrop : b.drops level m = true
  · rw [if_pos hdrop]
    exact of_spoke (.silent rfl rfl) rfl
  · rw [if_neg hdrop]
    cases msg.ending with
    | ok _ => exact hrecorded false
    | error _ => exact hrecorded _

end Machine.Announced

namespace Build

variable (b : Build) (fault : Fault) (m : Machine)

/-- The handler watched for no halt is at its loop, and has only announced. -/
theorem announced_park : m.Announced (b.park fault [] m) := by
  induction fault, m using Build.park.induct b with
  | case1 fault m u n hlog =>
    have hreport := Machine.Announced.log b .error faultTarget fault.notice m.mask
    rw [hlog] at hreport
    rw [b.park_eq, hlog]
    exact (Machine.Announced.mask m).trans hreport
  | case2 fault m nested n hlog hless ih =>
    have hreport := Machine.Announced.log b .error faultTarget fault.notice m.mask
    rw [hlog] at hreport
    rw [b.park_eq, hlog]
    exact ((Machine.Announced.mask m).trans hreport).trans ih

/-- Whatever its report raises, the handler comes to its loop, and stays. -/
theorem park_eq_haltLoop (wakes : List Bool) :
    b.park fault wakes m = (b.platform .native).haltLoop wakes (b.park fault [] m) := by
  induction fault, m using Build.park.induct b with
  | case1 fault m u n hlog =>
    rw [b.park_eq, b.park_eq fault [], hlog]
    rfl
  | case2 fault m nested n hlog hless ih =>
    rw [b.park_eq, b.park_eq fault [], hlog]
    exact ih

end Build

/-! ### Both of them -/

/-- The machine rests in either halt loop of a build, for as long as it is watched. -/
structure Build.RestsInLoops (b : Build) (cpu : Processor) : Prop where
  /-- Past its order check and its one record, the last step is in its loop. -/
  afterReturn : ∀ (w : Walk Machine) (wakes : List Bool), w.machine.maskable = true →
    w.progress.stage = .transferred ∨ b.checks = false →
      ∃ v, Boot.halt (b.platform cpu) wakes w = .ok () v ∧
        v.progress = { w.progress with stage := .halted } ∧
        (b.platform cpu).Rests wakes (b.logText .error Boot.target Boot.haltText w.machine)
          v.machine
  /-- And so is the fault handler on metal, past its report. -/
  afterFault : b.target = .metal → ∀ (fault : Fault) (m : Machine) (wakes : List Bool),
    m.maskable = true →
      m.Announced (b.park fault [] m) ∧
        (b.platform .native).Rests wakes (b.park fault [] m) (b.park fault wakes m)

/-- **The machine rests where its boot has ended**, on every build and every faithful processor,
whatever the halts wake with. -/
theorem Build.rests_in_loops {b : Build} {cpu : Processor} (hcpu : b.Faithful cpu) :
    b.RestsInLoops cpu where
  afterReturn w wakes hmaskable hgo := by
    have hspoke := Machine.Spoke.logText b .error Boot.target Boot.haltText w.machine
    have hchecked : w.progress.stage = .transferred ∨ (b.platform cpu).checks = false := by
      rw [b.checks_platform]
      exact hgo
    refine ⟨_, Boot.halt_of_due (b.platform cpu) hchecked wakes, rfl, ?_⟩
    rw [b.report_platform]
    exact Platform.rests_haltLoop hcpu wakes (hspoke.maskable.trans hmaskable)
  afterFault hmetal fault m wakes hmaskable := by
    have hannounced := b.announced_park fault m
    refine ⟨hannounced, ?_⟩
    rw [b.park_eq_haltLoop fault m wakes]
    exact Platform.rests_haltLoop (Or.inr hmetal) wakes (hannounced.maskable.trans hmaskable)

/-- Two halts that wake with interrupts enabled and one that is not seen to end, in both loops. -/
theorem Build.rests_in_loops_waking :
    let m : Machine := { flags := ⟨0x602⟩, memory := ⟨0x1000, #[1, 2]⟩, console := .idle false }
    let w : Walk Machine := ⟨{ stage := .transferred, stackTop := none }, m⟩
    let wakes := [true, true, false]
    Build.metalDebug.Faithful .native ∧
      (∃ v, Boot.halt (Build.metalDebug.platform .native) wakes w = .ok () v ∧
        v.machine.events.drop 4 = [.mask, .halt, .mask, .halt, .mask, .halt] ∧
        v.machine.memory = m.memory ∧ v.machine.flags.bit 10 = true) ∧
      (∃ before, (Build.metalDebug.park .subtractOverflow wakes m).events =
        before ++ [.mask, .halt, .mask, .halt, .mask, .halt]) ∧
      (Build.metalDebug.park .subtractOverflow wakes m).memory = m.memory := by
  intro m w wakes
  have hrests : Build.metalDebug.RestsInLoops .native := rests_in_loops (Or.inr rfl)
  obtain ⟨v, hv, -, hloop⟩ := hrests.afterReturn w wakes rfl (Or.inl rfl)
  obtain ⟨hannounced, hpark⟩ := hrests.afterFault rfl .subtractOverflow m wakes rfl
  refine ⟨Or.inr rfl, ⟨v, hv, ?_, ?_, ?_⟩, ⟨_, hpark.events⟩, ?_⟩
  · rw [hloop.events]
    decide
  · rw [hloop.settled.memory, Build.memory_logText]
  · rw [hloop.settled.otherBits 10 (by decide), Build.flags_logText]
    decide
  · rw [hpark.settled.memory, hannounced.memory]

end Handoff
