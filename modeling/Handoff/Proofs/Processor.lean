/-
What the platforms of the builds have in common.

Whichever processor a build is given, its checks and its log are the build's own, and
whether interrupts read as enabled depends on the flag word alone.  On every platform
but the host's native one the reading is the truth, and masking is `Machine.mask` and
halting `Machine.halt`.
-/
import Handoff.Processor
import Handoff.Proofs.Flags
import Handoff.Proofs.Record

namespace Handoff

/-! ### Masking and halting -/

namespace Machine

variable (m : Machine) (wake : Bool)

/-- Masking is seen, and changes the flag word of a machine that can be masked. -/
theorem mask_eq :
    m.mask = { m with
      flags := if m.maskable then m.flags.diff .interruptEnable else m.flags
      events := m.events ++ [.mask] } := by
  unfold mask
  simp only
  split <;> simp_all [note]

@[simp] theorem events_mask : m.mask.events = m.events ++ [.mask] := by
  rw [mask_eq]

@[simp] theorem memory_mask : m.mask.memory = m.memory := by
  rw [mask_eq]

@[simp] theorem maskable_mask : m.mask.maskable = m.maskable := by
  rw [mask_eq]

@[simp] theorem console_mask : m.mask.console = m.console := by
  rw [mask_eq]

/-- Masking works on a machine that can be masked. -/
theorem flags_mask (h : m.maskable = true) : m.mask.flags = m.flags.diff .interruptEnable :=
  congrArg flags (if_pos h)

@[simp] theorem events_halt : (m.halt wake).events = m.events ++ [.halt] := by
  cases wake <;> rfl

@[simp] theorem memory_halt : (m.halt wake).memory = m.memory := by
  cases wake <;> rfl

@[simp] theorem console_halt : (m.halt wake).console = m.console := by
  cases wake <;> rfl

@[simp] theorem maskable_halt : (m.halt wake).maskable = m.maskable := by
  cases wake <;> rfl

/-- Masking changes the interrupt flag alone. -/
theorem bit_mask {i : Nat} (hi : i ≠ 9) : m.mask.flags.bit i = m.flags.bit i := by
  rw [mask_eq]
  split
  · simp [Flags.bit_diff, Flags.bit_interruptEnable, hi]
  · rfl

/-- So does a halt, whatever it wakes with. -/
theorem bit_halt {i : Nat} (hi : i ≠ 9) :
    (m.halt wake).flags.bit i = m.flags.bit i := by
  cases wake with
  | false => rfl
  | true =>
    show (m.flags.union .interruptEnable).bit i = _
    simp [Flags.bit_union, Flags.bit_interruptEnable, hi]

end Machine

/-! ### The platforms of the builds -/

namespace Build

variable (b : Build) (cpu : Processor)

@[simp] theorem checks_platform : (b.platform cpu).checks = b.checks := by
  unfold platform
  split
  · rfl
  · split <;> rfl

@[simp] theorem report_platform : (b.platform cpu).report = b.logText := by
  unfold platform
  split
  · rfl
  · split <;> rfl

/-- A processor masks, or it cannot. -/
theorem maskInterrupts_cases :
    (b.platform cpu).maskInterrupts = Machine.mask ∨ (b.platform cpu).maskInterrupts = id := by
  unfold platform
  split
  · exact Or.inl rfl
  · split
    · exact Or.inl rfl
    · exact Or.inr rfl

theorem halt_cases :
    (b.platform cpu).halt = Machine.halt ∨ (b.platform cpu).halt = fun _ => id := by
  unfold platform
  split
  · exact Or.inl rfl
  · split
    · exact Or.inl rfl
    · exact Or.inr rfl

/-- A processor zeroes as one write that it notes, with the string store, or as one write. -/
theorem zeroBytes_cases (start length : UInt64) :
    ((b.platform cpu).zeroBytes start length =
        fun m => (m.note (.zero start length)).zeroDirectly start length) ∨
      (b.platform cpu).zeroBytes start length = Machine.zeroByStringStore start length ∨
      (b.platform cpu).zeroBytes start length = Machine.zeroDirectly start length := by
  unfold platform
  split
  · exact Or.inl rfl
  · split
    · exact Or.inr (Or.inl rfl)
    · exact Or.inr (Or.inr rfl)

/-- The processor's operations act on the machine itself. -/
def Faithful : Prop :=
  cpu = .recording ∨ b.target = .metal

variable {b cpu}

theorem Faithful.maskInterrupts_eq (h : b.Faithful cpu) :
    (b.platform cpu).maskInterrupts = Machine.mask := by
  rcases h with rfl | hmetal
  · rfl
  · cases cpu with
    | recording => rfl
    | native => rw [platform, hmetal]

theorem Faithful.halt_eq (h : b.Faithful cpu) : (b.platform cpu).halt = Machine.halt := by
  rcases h with rfl | hmetal
  · rfl
  · cases cpu with
    | recording => rfl
    | native => rw [platform, hmetal]

/-- A faithful reading of the interrupt flag is the flag. -/
theorem Faithful.interruptsEnabled_eq (h : b.Faithful cpu) (m : Machine) :
    (b.platform cpu).interruptsEnabled m = m.interruptsEnabled := by
  rcases h with rfl | hmetal
  · rfl
  · cases cpu with
    | recording => rfl
    | native =>
      rw [platform, hmetal]
      exact m.flags.enabled_truncate

/-- The reading depends on the flag word alone. -/
theorem interruptsEnabled_congr (b : Build) (cpu : Processor) {m n : Machine}
    (h : m.flags = n.flags) :
    (b.platform cpu).interruptsEnabled m = (b.platform cpu).interruptsEnabled n := by
  unfold platform
  split
  · simp only [Machine.interruptsEnabled, h]
  · split
    · simp only [Machine.nativeFlags, h]
    · rfl

/-- A record does not change the reading. -/
theorem interruptsEnabled_report (b : Build) (cpu : Processor) (level : Level)
    (target text : String) (m : Machine) :
    (b.platform cpu).interruptsEnabled ((b.platform cpu).report level target text m)
      = (b.platform cpu).interruptsEnabled m := by
  rw [report_platform]
  exact b.interruptsEnabled_congr cpu (b.flags_logText level target text m)

end Build

end Handoff
