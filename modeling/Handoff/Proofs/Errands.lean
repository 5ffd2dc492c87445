/-
What a kernel that runs errands shows, and what the halt loop after it shows.

An errand changes flags and memory as it likes, but all that is seen of it is what it
sends out on the serial port.  So between two machines of one boot there is nothing but
speech, `Machine.Spoke`, apart from the events that are listed by name: the two by which
the kernel notes its entry, and the pairs of the halt loop.
-/
import Handoff.Image
import Handoff.Proofs.Processor
import Handoff.Proofs.Steps

namespace Handoff

namespace Machine

/-- From the first machine to the second nothing was seen but events of a kind. -/
def Shows (kind : Event → Prop) (m n : Machine) : Prop :=
  ∃ said, (∀ e ∈ said, kind e) ∧ n.events = m.events ++ said

theorem Shows.trans {kind : Event → Prop} {m n k : Machine} (h : Shows kind m n)
    (h' : Shows kind n k) : Shows kind m k := by
  obtain ⟨said, hsaid, hevents⟩ := h
  obtain ⟨said', hsaid', hevents'⟩ := h'
  refine ⟨said ++ said', ?_, ?_⟩
  · intro e he
    rcases List.mem_append.1 he with hfirst | hlater
    · exact hsaid e hfirst
    · exact hsaid' e hlater
  · rw [hevents', hevents, List.append_assoc]

/-- From the first machine to the second nothing was seen but serial output, and the
processor is the same. -/
structure Spoke (m n : Machine) : Prop where
  events : ∃ said, (∀ e ∈ said, e.isSerial = true) ∧ n.events = m.events ++ said
  maskable : n.maskable = m.maskable

namespace Spoke

variable {m n k : Machine}

theorem silent (hevents : n.events = m.events) (hmaskable : n.maskable = m.maskable) :
    m.Spoke n := by
  refine ⟨⟨[], ?_, ?_⟩, hmaskable⟩
  · intro e he
    cases he
  · rw [hevents, List.append_nil]

theorem shows (h : m.Spoke n) : Shows (fun e => e.isSerial = true) m n := h.events

theorem trans (h : m.Spoke n) (h' : n.Spoke k) : m.Spoke k :=
  ⟨h.shows.trans h'.shows, h'.maskable.trans h.maskable⟩

theorem recorded (m : Machine) (level : Level) (target : String) (msg : Message) (locked : Bool) :
    m.Spoke (m.recorded (msg.spoken level target) locked) := by
  refine ⟨⟨m.warmUp ++ msg.spoken level target, ?_, List.append_assoc ..⟩, rfl⟩
  apply m.isSerial_of_record
  intro e he
  exact msg.spoken_serial he

theorem logText (b : Build) (level : Level) (target text : String) (m : Machine) :
    m.Spoke (b.logText level target text m) := by
  rw [b.logText_eq]
  split
  · exact silent rfl rfl
  · exact recorded m level target _ false

theorem perform {b : Build} {errand : Errand} (h : errand.perform b m = .ok () n) : m.Spoke n := by
  cases errand with
  | act action =>
    cases h
    cases action <;> exact silent rfl rfl
  | log level target message =>
    change b.log level target message m = .ok () n at h
    rw [b.log_eq] at h
    split at h
    · cases h
      exact silent rfl rfl
    · split at h
      · cases h
        exact recorded m level target message false
      · cases h
  | raise location cause => cases h

/-- Errands that are all done have only spoken. -/
theorem performAll {b : Build} {errands : List Errand}
    (h : Errand.performAll b errands m = .ok () n) : m.Spoke n := by
  induction errands generalizing m with
  | nil =>
    cases h
    exact silent rfl rfl
  | cons errand errands ih =>
    obtain ⟨_, k, hfirst, hrest⟩ := bind_ok_iff.1 h
    exact (perform hfirst).trans (ih hrest)

end Spoke

end Machine

/-! ### Errands that are done for certain -/

namespace Errand

/-- The errand raises nothing, and neither does the message that it logs. -/
def returns : Errand → Bool
  | .act _ => true
  | .log _ _ message => message.ending.isOk
  | .raise _ _ => false

theorem perform_returns (b : Build) {errand : Errand} (h : errand.returns = true) (m : Machine) :
    ∃ n, errand.perform b m = .ok () n := by
  cases errand with
  | act action => exact ⟨_, rfl⟩
  | log level target message =>
    show ∃ n, b.log level target message m = .ok () n
    rw [b.log_eq]
    cases hending : message.ending with
    | ok ending => split <;> exact ⟨_, rfl⟩
    | error fault =>
      rw [returns, hending] at h
      cases h
  | raise location cause => cases h

/-- A kernel that raises nothing returns. -/
theorem performAll_returns (b : Build) {errands : List Errand}
    (h : ∀ errand ∈ errands, errand.returns = true) (m : Machine) :
    ∃ n, performAll b errands m = .ok () n := by
  induction errands generalizing m with
  | nil => exact ⟨m, rfl⟩
  | cons errand errands ih =>
    obtain ⟨n, hfirst⟩ := perform_returns b (h errand List.mem_cons_self) m
    obtain ⟨k, hrest⟩ := ih (fun e he => h e (List.mem_cons_of_mem _ he)) n
    exact ⟨k, (bind_of_ok hfirst).trans hrest⟩

end Errand

/-! ### The halt loop -/

namespace Machine

/-- The second machine is the first but for the interrupt flag and the history. -/
structure Settled (m s : Machine) : Prop where
  memory : s.memory = m.memory
  console : s.console = m.console
  maskable : s.maskable = m.maskable
  otherBits : ∀ i, i ≠ 9 → s.flags.bit i = m.flags.bit i

namespace Settled

variable {m s : Machine}

theorem refl (m : Machine) : m.Settled m :=
  ⟨rfl, rfl, rfl, fun _ _ => rfl⟩

theorem mask (h : m.Settled s) : m.Settled s.mask where
  memory := s.memory_mask.trans h.memory
  console := s.console_mask.trans h.console
  maskable := s.maskable_mask.trans h.maskable
  otherBits i hi := (s.bit_mask hi).trans (h.otherBits i hi)

theorem halt (h : m.Settled s) (wake : Bool) : m.Settled (s.halt wake) where
  memory := (s.memory_halt wake).trans h.memory
  console := (s.console_halt wake).trans h.console
  maskable := (s.maskable_halt wake).trans h.maskable
  otherBits i hi := (s.bit_halt wake hi).trans (h.otherBits i hi)

end Settled

end Machine

namespace Platform

variable {b : Build} {cpu : Processor} (hcpu : b.Faithful cpu)
include hcpu

/-- The loop masks before it halts, every time. -/
theorem events_haltLoop (wakes : List Bool) (m : Machine) :
    ((b.platform cpu).haltLoop wakes m).events =
      m.events ++ wakes.flatMap fun _ => [.mask, .halt] := by
  unfold haltLoop
  rw [hcpu.maskInterrupts_eq, hcpu.halt_eq]
  induction wakes generalizing m with
  | nil => simp
  | cons wake wakes ih =>
    have honce : (m.mask.halt wake).events = m.events ++ [.mask, .halt] := by simp
    rw [List.foldl_cons, ih, honce, List.flatMap_cons, List.append_assoc]

/-- The loop leaves all but the interrupt flag and the history alone. -/
theorem settled_haltLoop (wakes : List Bool) {m s : Machine} (h : m.Settled s) :
    m.Settled ((b.platform cpu).haltLoop wakes s) := by
  unfold haltLoop
  rw [hcpu.maskInterrupts_eq, hcpu.halt_eq]
  induction wakes generalizing s with
  | nil => exact h
  | cons wake wakes ih => exact ih (h.mask.halt wake)

/-- Whenever the loop comes to a halt, it has masked interrupts. -/
theorem masked_haltLoop (wakes : List Bool) {m : Machine} (h : m.maskable = true) :
    ((b.platform cpu).maskInterrupts ((b.platform cpu).haltLoop wakes m)).flags.contains
      .interruptEnable = false := by
  rw [hcpu.maskInterrupts_eq, Machine.flags_mask]
  · exact Flags.masked_diff _
  · exact (settled_haltLoop hcpu wakes (.refl m)).maskable.trans h

end Platform

end Handoff
