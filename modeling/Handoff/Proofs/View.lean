/-
Sessions as they show to someone who overlooks a part of them.

A view overlooks events of some kinds and takes the console for another one.  What it shows
of a machine is a machine again, so two platforms can be compared through it: the first
tracks the second if each of its operations does to the machine that shows what the second
does to the machine behind.  From there it goes up in three stages.  What shows of a step of
the hand-off is that same step on the platform that tracks; the same holds of a step of a
session, unless it asks for diagnostics; and by induction of whole sessions.

Zeroing is tracked only where `stores` says so, since two processors need not agree on what
happens outside the memory.  What lies in the memory cannot change on the way: no step moves
it, and none makes it larger or smaller.
-/
import Handoff.Proofs.Kept
import Handoff.Proofs.Memory
import Handoff.Proofs.Tracked

namespace Handoff

/-- Which events are seen, and what the console is taken for.  Masking, halting and the entry
of the kernel are always seen. -/
structure View where
  sees : Event → Bool
  console : Console → Console
  sees_mask : sees .mask = true
  sees_halt : sees .halt = true
  sees_entry : ∀ enabled nonzero, sees (.entry enabled nonzero) = true

namespace View

variable (v : View)

/-- What shows of a machine. -/
def machine (m : Machine) : Machine :=
  { m with console := v.console m.console, events := m.events.filter v.sees }

/-- What shows of a walk. -/
def walk (w : Walk Machine) : Walk Machine :=
  { w with machine := v.machine w.machine }

/-- What shows of the end of an operation. -/
def result {α : Type} :
    EStateM.Result Fault (Walk Machine) α → EStateM.Result Fault (Walk Machine) α
  | .ok a w => .ok a (v.walk w)
  | .error fault w => .error fault (v.walk w)

/-- What shows of a session. -/
def session (s : Session) : Session := s.touch v.machine

/-- What shows of a report. -/
def report (r : Report) : Report :=
  { r with events := r.events.filter v.sees }

/-! ### Machines -/

section Machine

variable (m : Machine)

theorem machine_note {e : Event} (he : v.sees e = true) :
    v.machine (m.note e) = (v.machine m).note e := by
  simp [machine, Machine.note, List.filter_append, he]

/-- An event that is overlooked leaves no trace. -/
theorem machine_note_overlooked {e : Event} (he : v.sees e = false) :
    v.machine (m.note e) = v.machine m := by
  simp [machine, Machine.note, List.filter_append, he]

theorem machine_mask : v.machine m.mask = (v.machine m).mask := by
  have hevents : (m.events ++ [Event.mask]).filter v.sees = m.events.filter v.sees ++ [.mask] := by
    simp [List.filter_append, v.sees_mask]
  rw [Machine.mask_eq, Machine.mask_eq, machine, hevents]
  rfl

theorem machine_halt (wake : Bool) : v.machine (m.halt wake) = (v.machine m).halt wake := by
  have hnote := v.machine_note m v.sees_halt
  cases wake with
  | true => exact congrArg Machine.unmask hnote
  | false => exact hnote

theorem machine_act (action : Action) : v.machine (m.act action) = (v.machine m).act action := by
  cases action <;> rfl

theorem machine_acts (actions : List Action) :
    v.machine (actions.foldl Machine.act m) = actions.foldl Machine.act (v.machine m) := by
  induction actions generalizing m with
  | nil => rfl
  | cons action actions ih => rw [List.foldl_cons, ih, machine_act, List.foldl_cons]

theorem machine_enterKernel : v.machine m.enterKernel = (v.machine m).enterKernel :=
  v.machine_note m (v.sees_entry _ _)

end Machine

/-! ### Platforms -/

/-- What the first platform does to the machine that shows, the second does to the machine
behind. -/
structure Tracks (stores : UInt64 → UInt64 → Machine → Prop) (p q : Platform Machine) : Prop where
  checks : p.checks = q.checks
  mask : ∀ m, p.maskInterrupts (v.machine m) = v.machine (q.maskInterrupts m)
  interruptsEnabled : ∀ m, p.interruptsEnabled (v.machine m) = q.interruptsEnabled m
  halt : ∀ wake m, p.halt wake (v.machine m) = v.machine (q.halt wake m)
  zero : ∀ start length m, stores start length m →
    p.zeroBytes start length (v.machine m) = v.machine (q.zeroBytes start length m)
  report : ∀ level target text m,
    p.report level target text (v.machine m) = v.machine (q.report level target text m)

/-- Where both processors act on the machine itself, only zeroing and records can differ. -/
theorem tracks_of_faithful {b c : Build} {cpu other : Processor} (hb : b.Faithful cpu)
    (hc : c.Faithful other) (hchecks : b.checks = c.checks)
    {stores : UInt64 → UInt64 → Machine → Prop}
    (hzero : ∀ start length m, stores start length m →
      (b.platform cpu).zeroBytes start length (v.machine m) =
        v.machine ((c.platform other).zeroBytes start length m))
    (hreport : ∀ level target text m,
      b.logText level target text (v.machine m) = v.machine (c.logText level target text m)) :
    v.Tracks stores (b.platform cpu) (c.platform other) where
  checks := by rw [b.checks_platform, c.checks_platform, hchecks]
  mask m := by rw [hb.maskInterrupts_eq, hc.maskInterrupts_eq, v.machine_mask]
  interruptsEnabled m := by
    rw [hb.interruptsEnabled_eq, hc.interruptsEnabled_eq]
    rfl
  halt wake m := by rw [hb.halt_eq, hc.halt_eq, v.machine_halt]
  zero := hzero
  report level target text m := by rw [b.report_platform, c.report_platform, hreport]

variable {v}

/-! ### Steps of the hand-off -/

theorem result_eq {α : Type} (r : EStateM.Result Fault (Walk Machine) α) :
    v.result r = Boot.shown v.machine r := by
  cases r with
  | ok a w => rfl
  | error fault w => rfl

namespace Tracks

variable {stores : UInt64 → UInt64 → Machine → Prop} {p q : Platform Machine}
  (h : v.Tracks stores p q) (w : Walk Machine)
include h

/-- A view is a map of machines. -/
theorem platform : p.Tracks v.machine stores q :=
  ⟨h.checks, h.mask, h.interruptsEnabled, h.halt, h.zero, h.report⟩

/-- A boot CPU is resumed, or not, by what shows of its machine. -/
theorem resume (top : StackTop) (m : Machine) :
    Progress.resume p top (v.machine m) = Progress.resume q top m := by
  rw [Progress.resume, Progress.resume, h.checks, h.interruptsEnabled]

theorem maskInterrupts :
    Boot.maskInterrupts p (v.walk w) = v.result (Boot.maskInterrupts q w) := by
  rw [result_eq]
  exact h.platform.maskInterrupts w

theorem establishStack (top : StackTop) :
    Boot.establishStack p top (v.walk w) = v.result (Boot.establishStack q top w) := by
  rw [result_eq]
  exact h.platform.establishStack w top

theorem zeroFill {span : Span}
    (hspan : span.isEmpty = false → stores span.start (span.stop - span.start) w.machine) :
    Boot.zeroFill p span (v.walk w) = v.result (Boot.zeroFill q span w) := by
  rw [result_eq]
  exact h.platform.zeroFill w hspan

omit h in
/-- A kernel that does some actions does them to what shows as well. -/
theorem kernel (address : UInt64) (actions : List Action) :
    (Kernel.ofActions address actions).Tracks v.machine (.ofActions address actions) where
  address := rfl
  code m := by
    have hshown : actions.foldl Machine.act (v.machine m).enterKernel =
        v.machine (actions.foldl Machine.act m.enterKernel) := by
      rw [v.machine_acts, v.machine_enterKernel]
    exact congrArg (EStateM.Result.ok ()) hshown

theorem transfer (address : UInt64) (actions : List Action) :
    Boot.transfer p (.ofActions address actions) (v.walk w) =
      v.result (Boot.transfer q (.ofActions address actions) w) := by
  rw [result_eq]
  exact h.platform.transfer w (kernel address actions)

theorem halts (wakes : List Bool) :
    Boot.halt p wakes (v.walk w) = v.result (Boot.halt q wakes w) := by
  rw [result_eq]
  exact h.platform.halts w wakes

theorem run {span : Span}
    (hspan : span.isEmpty = false → stores span.start (span.stop - span.start) w.machine)
    (address : UInt64) (actions : List Action) (wakes : List Bool) :
    Boot.run p span (.ofActions address actions) wakes (v.walk w) =
      v.result (Boot.run q span (.ofActions address actions) wakes w) := by
  rw [result_eq]
  exact h.platform.run w (kernel address actions) hspan wakes

end Tracks

end View

/-! ### Where the memory lies -/

/-- The same place and the same size. -/
def Memory.SameFrame (m n : Memory) : Prop :=
  m.base = n.base ∧ m.bytes.size = n.bytes.size

/-- All that a session does leaves the memory in its place. -/
theorem Memory.SameFrame.kept (b : Build) (cpu : Processor) (frame : Memory) :
    Machine.Kept b cpu fun m => m.memory.SameFrame frame where
  mask m hm := by
    rcases b.maskInterrupts_cases cpu with hmask | hmask
    · rw [hmask, m.memory_mask]
      exact hm
    · rw [hmask]
      exact hm
  halt wake m hm := by
    rcases b.halt_cases cpu with hhalt | hhalt
    · rw [hhalt, m.memory_halt]
      exact hm
    · rw [hhalt]
      exact hm
  zero start length m hm := by
    have hfilled : (m.memory.fill start length.toNat 0).SameFrame frame :=
      ⟨(m.memory.base_fill ..).trans hm.1, (m.memory.size_fill ..).trans hm.2⟩
    rcases b.zeroBytes_cases cpu start length with hzero | hzero | hzero
    · rw [hzero]
      exact hfilled
    · rw [hzero]
      obtain ⟨hbase, hsize⟩ := m.memory.frame_storeString start 0 length.toNat
      exact ⟨hbase.trans hm.1, hsize.trans hm.2⟩
    · rw [hzero]
      exact hfilled
  record spoken locked m _ hm := hm
  act action m hm := by
    cases action with
    | enableInterrupts => exact hm
    | setFlags flags => exact hm
    | poke address byte count =>
      exact ⟨(m.memory.base_fill ..).trans hm.1, (m.memory.size_fill ..).trans hm.2⟩
  enter m hm _ := hm

/-! ### Sessions -/

namespace Session

variable (b : Build) (cpu : Processor)

/-- There is a report for every step. -/
theorem length_run (s : Session) (steps : List Step) :
    (s.run b cpu steps).1.length = steps.length := by
  induction steps generalizing s with
  | nil => rfl
  | cons step steps ih => exact congrArg (· + 1) (ih _)

/-- What happened before a session is not seen in it. -/
theorem run_of_clear {s t : Session} (h : s.clearEvents = t.clearEvents) (steps : List Step) :
    (s.run b cpu steps).1 = (t.run b cpu steps).1 ∧
      (s.run b cpu steps).2.clearEvents = (t.run b cpu steps).2.clearEvents := by
  cases steps with
  | nil => exact ⟨rfl, h⟩
  | cons step steps =>
    rw [run, run, h]
    exact ⟨rfl, rfl⟩

end Session

namespace Step

/-- The answer tells of the log, or of the flags as the build reads them. -/
def diagnostic : Step → Bool
  | .log _ _ _ | .readFlags => true
  | _ => false

/-- What the step has zeroed on that machine may be stored. -/
def Stores (stores : UInt64 → UInt64 → Machine → Prop) (m : Machine) : Step → Prop
  | .zeroFill extent | .run extent _ _ _ =>
    ∀ span, extent.span m.memory = .ok span → span.isEmpty = false →
      stores span.start (span.stop - span.start) m
  | .zeroBytes address length => stores address length m
  | _ => True

theorem stores_of_forall {stores : UInt64 → UInt64 → Machine → Prop} {m : Machine}
    (h : ∀ start length, stores start length m) (step : Step) : step.Stores stores m := by
  cases step with
  | zeroFill extent => exact fun span _ _ => h _ _
  | run extent address actions wakes => exact fun span _ _ => h _ _
  | zeroBytes start length => exact h _ _
  | _ => trivial

end Step

namespace View

variable {v : View} {s : Session}

theorem session_touch {f g : Machine → Machine}
    (hfg : f (v.machine s.machine) = v.machine (g s.machine)) :
    (v.session s).touch f = v.session (s.touch g) :=
  congrArg (Session.mk s.progress) hfg

theorem session_walk {x y : Boot Machine Unit}
    (hxy : ∀ progress, x (v.walk ⟨progress, s.machine⟩) = v.result (y ⟨progress, s.machine⟩))
    (done : Answer) (last : Bool) :
    (v.session s).walk done last x =
      ((s.walk done last y).1, v.session (s.walk done last y).2) := by
  have hprogress : (v.session s).progress = s.progress := rfl
  unfold Session.walk
  rw [hprogress]
  cases s.progress with
  | none => rfl
  | some progress =>
    have hrun : x { progress, machine := (v.session s).machine } =
        v.result (y { progress, machine := s.machine }) := hxy progress
    simp only [hrun]
    cases y { progress, machine := s.machine } <;> rfl

theorem session_walkOver {x y : Span → Boot Machine Unit} {extent : Extent}
    (hxy : ∀ span, extent.span s.machine.memory = .ok span → ∀ progress,
      x span (v.walk ⟨progress, s.machine⟩) = v.result (y span ⟨progress, s.machine⟩))
    (done : Answer) (last : Bool) :
    (v.session s).walkOver extent done last x =
      ((s.walkOver extent done last y).1, v.session (s.walkOver extent done last y).2) := by
  have hprogress : (v.session s).progress = s.progress := rfl
  have hmemory : (v.session s).machine.memory = s.machine.memory := rfl
  unfold Session.walkOver
  rw [hprogress, hmemory]
  cases s.progress with
  | none => rfl
  | some progress =>
    cases hspan : extent.span s.machine.memory with
    | error cause => rfl
    | ok span => exact session_walk (hxy span hspan) done last

/-- **What shows of a step is the step on what shows**, unless it is one for diagnostics. -/
theorem session_step {b c : Build} {cpu other : Processor}
    {stores : UInt64 → UInt64 → Machine → Prop}
    (h : v.Tracks stores (b.platform cpu) (c.platform other))
    (hstops : b.stops cpu = c.stops other) {step : Step} (hstep : step.diagnostic = false)
    (hstores : step.Stores stores s.machine) :
    (v.session s).step b cpu step =
      ((s.step c other step).1, v.session (s.step c other step).2) := by
  have hmachine : (v.session s).machine = v.machine s.machine := rfl
  cases step with
  | start => rfl
  | resume top =>
    simp only [Session.step, hmachine, h.resume]
    cases Progress.resume (c.platform other) (.alignDown top) s.machine <;> rfl
  | mask => exact session_walk (fun progress => h.maskInterrupts _) _ _
  | establish top => exact session_walk (fun progress => h.establishStack _ _) _ _
  | zeroFill extent =>
    exact session_walkOver (fun span hspan progress => h.zeroFill _ (hstores span hspan)) _ _
  | transfer address actions => exact session_walk (fun progress => h.transfer _ address actions) _ _
  | halt wakes => exact session_walk (fun progress => h.halts _ wakes) _ _
  | run extent address actions wakes =>
    exact session_walkOver
      (fun span hspan progress => h.run _ (hstores span hspan) address actions wakes) _ _
  | act action => exact congrArg (Prod.mk Answer.ok) (session_touch (v.machine_act _ action).symm)
  | maskProcessor => exact congrArg (Prod.mk Answer.ok) (session_touch (h.mask _))
  | askInterrupts =>
    exact congrArg (fun truth => (Answer.truth truth, v.session s)) (h.interruptsEnabled _)
  | readFlags => cases hstep
  | haltProcessor wake =>
    cases wake with
    | none =>
      simp only [Session.step, hstops]
      exact congrArg (Prod.mk _) (session_touch (h.halt false _))
    | some wake => exact congrArg (Prod.mk Answer.ok) (session_touch (h.halt wake _))
  | zeroBytes start length =>
    exact congrArg (Prod.mk Answer.ok) (session_touch (h.zero start length _ hstores))
  | log level target message => cases hstep

/-- What shows of a session is the session on what shows, if that holds of each of its steps
wherever the memory has its place.  The answers may have to be amended. -/
theorem session_run {b c : Build} {cpu other : Processor} (amend : Step → Answer → Answer)
    {steps : List Step}
    (hsteps : ∀ step ∈ steps, ∀ t : Session, t.machine.memory.SameFrame s.machine.memory →
      (v.session t).step b cpu step =
        (amend step (t.step c other step).1, v.session (t.step c other step).2)) :
    (v.session s).run b cpu steps =
      (List.zipWith (fun step r => v.report { r with answer := amend step r.answer }) steps
          (s.run c other steps).1,
        v.session (s.run c other steps).2) := by
  induction steps generalizing s with
  | nil => rfl
  | cons step steps ih =>
    have hclear : (v.session s).clearEvents = v.session s.clearEvents := rfl
    have htaken := hsteps step List.mem_cons_self s.clearEvents ⟨rfl, rfl⟩
    have hframe : (s.clearEvents.step c other step).2.machine.memory.SameFrame s.machine.memory :=
      Session.step_keeps (Memory.SameFrame.kept c other s.machine.memory) s.clearEvents step
        ⟨rfl, rfl⟩
    have hrest := ih (s := (s.clearEvents.step c other step).2) fun step hstep t ht =>
      hsteps step (List.mem_cons_of_mem _ hstep) t ⟨ht.1.trans hframe.1, ht.2.trans hframe.2⟩
    simp only [Session.run, hclear, htaken, hrest, List.zipWith_cons_cons]
    rfl

/-- The same of a session on its own machine, if the console is taken for what it is.  What
happened before does not matter. -/
theorem run_shown {b c : Build} {cpu other : Processor} (amend : Step → Answer → Answer)
    (hconsole : v.console s.machine.console = s.machine.console) (steps : List Step)
    (hsteps : ∀ step ∈ steps, ∀ t : Session, t.machine.memory.SameFrame s.machine.memory →
      (v.session t).step b cpu step =
        (amend step (t.step c other step).1, v.session (t.step c other step).2)) :
    (s.run b cpu steps).1 =
        List.zipWith (fun step r => v.report { r with answer := amend step r.answer }) steps
          (s.run c other steps).1 ∧
      (s.run b cpu steps).2.clearEvents = (v.session (s.run c other steps).2).clearEvents := by
  have hrun := session_run (s := s) amend hsteps
  have hclear : s.clearEvents = (v.session s).clearEvents :=
    congrArg (fun console => Session.mk s.progress { s.machine with console, events := [] })
      hconsole.symm
  obtain ⟨hreports, hend⟩ := Session.run_of_clear b cpu hclear steps
  exact ⟨hreports.trans (congrArg Prod.fst hrun),
    hend.trans (congrArg (fun ended => ended.2.clearEvents) hrun)⟩

/-- No view changes how far a session has come, its flags and its memory. -/
theorem shown_eq {t u : Session} (h : t.clearEvents = (v.session u).clearEvents) :
    t.progress = u.progress ∧ t.machine.flags = u.machine.flags ∧
      t.machine.memory = u.machine.memory ∧ t.machine.console = v.console u.machine.console := by
  have hprogress := congrArg Session.progress h
  have hmachine := congrArg Session.machine h
  have hflags := congrArg Machine.flags hmachine
  have hmemory := congrArg Machine.memory hmachine
  have hconsole := congrArg Machine.console hmachine
  exact ⟨hprogress, hflags, hmemory, hconsole⟩

/-- Where no answer is amended the steps do not matter to the reports. -/
theorem zipWith_report (b : Build) (cpu : Processor) (s : Session) (steps : List Step) :
    List.zipWith (fun _ r => v.report { r with answer := r.answer }) steps (s.run b cpu steps).1 =
      (s.run b cpu steps).1.map v.report := by
  have hlength : (s.run b cpu steps).1.length ≤ steps.length := Nat.le_of_eq (s.length_run b cpu steps)
  calc List.zipWith (fun _ r => v.report r) steps (s.run b cpu steps).1
      = ((steps.zip (s.run b cpu steps).1).map Prod.snd).map v.report := by
        rw [List.map_map, ← List.map_uncurry_zip_eq_zipWith]
        rfl
    _ = (s.run b cpu steps).1.map v.report := by rw [List.map_snd_zip hlength]

end View

end Handoff
