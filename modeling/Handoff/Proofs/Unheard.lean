/-
What is heard of an image before its storage is zeroed.

The console is part of the storage that the zero fill is for, so nothing may be reported
before the fill is done.  The steps up to there keep to that, and every record that they
emit comes behind it.  What does not is the fault handler: it reports whatever stops the
image, also when that is a check on the way to the fill.  So the run is cut at the end of
its fill here, and what is heard up to the cut depends on one thing, whether the checks
find anything.
-/
import Handoff.Proofs.Approach
import Handoff.Proofs.Parked

namespace Handoff

/-! ### The cut -/

namespace Boot

variable {σ : Type} (p : Platform σ) (span : Span) (kernel : Kernel σ) (wakes : List Bool)

/-- What steps 3 to 5 have still to do once the span is zeroed. -/
def sinceFill : Boot σ Unit := do
  let length ← MonadExcept.ofExcept (span.length p.checks)
  report p .debug (zeroFillText span.start length)
  transfer p kernel
  halt p wakes

theorem run_eq_fill :
    run p span kernel wakes = fill p span >>= fun _ => sinceFill p span kernel wakes := by
  unfold run sinceFill
  simp only [zeroFill_eq_fill, bind_assoc]

end Boot

namespace Image

variable (i : Image)

/-- The zero fill, from a progress on. -/
def fillFrom (progress : Progress) : EStateM Fault Machine Progress := fun m =>
  match Boot.fill i.platform i.layout.zeroed { progress, machine := m } with
  | .ok _ w => .ok w.progress w.machine
  | .error fault w => .error fault w.machine

/-- From the stub's call to the end of the zero fill. -/
def untilFilled : EStateM Fault Machine Progress := do
  let progress ← i.resume
  i.fillFrom progress

/-- From there to the end of the watch. -/
def onceFilled (wakes : List Bool) (progress : Progress) : EStateM Fault Machine Unit := fun m =>
  match Boot.sinceFill i.platform i.layout.zeroed i.kernel wakes { progress, machine := m } with
  | .ok _ w => .ok () w.machine
  | .error fault w => .error fault w.machine

/-- The end of the fill cuts the run in two. -/
theorem afterStub_eq (wakes : List Bool) :
    i.afterStub wakes = i.untilFilled >>= i.onceFilled wakes := by
  have hproceed (progress : Progress) :
      i.proceed wakes progress = i.fillFrom progress >>= i.onceFilled wakes := by
    funext m
    unfold proceed
    rw [Boot.run_eq_fill]
    cases hfill : Boot.fill i.platform i.layout.zeroed { progress, machine := m } with
    | ok _ w =>
      have hfrom : i.fillFrom progress m = .ok w.progress w.machine := by rw [fillFrom, hfill]
      rw [bind_of_ok hfill, bind_of_ok hfrom]
      rfl
    | error fault w =>
      have hfrom : i.fillFrom progress m = .error fault w.machine := by rw [fillFrom, hfill]
      rw [bind_of_error hfill, bind_of_error hfrom]
  unfold afterStub untilFilled
  simp only [hproceed, bind_assoc]

/-- What becomes of a run once its storage is zeroed. -/
def afterFill (wakes : List Bool) (fill : Walk Machine) : Option Fault × Machine :=
  match i.onceFilled wakes fill.progress fill.machine with
  | .ok _ after => (none, after)
  | .error fault after => (some fault, i.build.park fault wakes after)

section Cut

variable {i : Image} {m : Machine}

theorem run_of_filled {fill : Walk Machine}
    (h : i.untilFilled (i.layout.stub m) = .ok fill.progress fill.machine) (wakes : List Bool) :
    i.run wakes m = i.afterFill wakes fill := by
  have hafter : i.afterStub wakes (i.layout.stub m) =
      i.onceFilled wakes fill.progress fill.machine :=
    (congrFun (i.afterStub_eq wakes) _).trans (bind_of_ok h)
  unfold run afterFill
  cases hend : i.onceFilled wakes fill.progress fill.machine with
  | ok _ after => rw [hafter, hend]
  | error fault after => rw [hafter, hend]

theorem run_of_stopped {fault : Fault} {n : Machine}
    (h : i.untilFilled (i.layout.stub m) = .error fault n) (wakes : List Bool) :
    i.run wakes m = (some fault, i.build.park fault wakes n) := by
  have hafter : i.afterStub wakes (i.layout.stub m) = .error fault n :=
    (congrFun (i.afterStub_eq wakes) _).trans (bind_of_error h)
  unfold run
  rw [hafter]

end Cut

/-! ### What the checks find -/

section Checks

variable {i : Image} {m : Machine}

theorem resume_unchecked (hchecks : i.checks = false) :
    i.resume m = .ok ⟨.stackEstablished, some ⟨i.layout.stubStackPointer⟩⟩ m := by
  have hplatform : i.platform.checks = false := (i.build.checks_platform .native).trans hchecks
  have htop : i.layout.stack.top false = .ok ⟨i.layout.stubStackPointer⟩ := by
    rw [i.layout.stubStackPointer_eq]
    rfl
  unfold resume
  rw [hchecks, htop]
  refine (bind_of_ok (t := m) rfl).trans ((bind_of_ok (t := m) rfl).trans ?_)
  rw [Progress.resume, hplatform]
  rfl

/-- The end of a stack that does not fit is found, though not always at the same place. -/
theorem resume_unfit (hchecks : i.checks = true) (hfits : ¬i.layout.stack.Fits)
    (hforward : m.flags.Forward) : i.resume m = .error .addOverflow m := by
  have hnative : (m.nativeFlags i.build.target).contains .direction = false :=
    m.flags.direction_truncate.trans hforward
  unfold resume BootStack.top BootStack.overlaps
  rw [hchecks, BootStack.rawTop_overflow hfits]
  refine (bind_of_ok (t := m) rfl).trans ?_
  rw [hnative]
  cases i.layout.zeroed.isEmpty <;> rfl

theorem untilFilled_of_resumed {top : Option StackTop}
    (hresume : i.resume m = .ok ⟨.stackEstablished, top⟩ m)
    (hfill : i.checks = false ∨ i.layout.zeroed.start ≤ i.layout.zeroed.stop) :
    i.untilFilled m = .ok ⟨.zeroFillComplete, top⟩ (i.platform.zeroed i.layout.zeroed m) := by
  have hchecks : i.platform.checks = i.checks := i.build.checks_platform .native
  refine (bind_of_ok hresume).trans ?_
  rw [fillFrom, Boot.fill_eq _ _ (hchecks ▸ hfill), Boot.advance_of_next rfl]

theorem untilFilled_inverted {top : Option StackTop}
    (hresume : i.resume m = .ok ⟨.stackEstablished, top⟩ m) (hchecks : i.checks = true)
    (hinverted : i.layout.zeroed.stop < i.layout.zeroed.start) :
    i.untilFilled m = .error .subtractOverflow m := by
  have hplatform : i.platform.checks = true := (i.build.checks_platform .native).trans hchecks
  refine (bind_of_ok hresume).trans ?_
  rw [fillFrom, Boot.fill_inverted _ _ hplatform hinverted]

end Checks

/-! ### What is heard -/

/-- What is seen of the image until its zero fill is done, or ever, if that never is. -/
def seenUntilFilled (wakes : List Bool) (m : Machine) : List Event :=
  match i.untilFilled (i.layout.stub m) with
  | .ok _ n => n.events
  | .error fault n => (i.build.park fault wakes n).events

/-- Nothing is heard of the image until its zero fill is done. -/
def Unheard (m : Machine) : Prop :=
  ∀ wakes, ∀ e ∈ i.seenUntilFilled wakes m, e.isSerial = false

/-- No check of the image has anything to find on the way to the fill. -/
structure Admitted (m : Machine) : Prop where
  masked : (i.layout.stub m).flags.contains .interruptEnable = false
  fits : i.layout.stack.Fits
  harmless : i.layout.Harmless

/-- The faults that a check can raise on the way to the fill. -/
def earlyFaults : List Fault :=
  [.addOverflow, .stackInRange, .unmaskedOnEntry, .subtractOverflow]

theorem ending_early {fault : Fault} (h : fault ∈ earlyFaults) :
    fault.message.ending = .ok .complete := by
  simp only [earlyFaults, List.mem_cons, List.not_mem_nil, or_false] at h
  rcases h with rfl | rfl | rfl | rfl <;> rfl

variable {i : Image} {m : Machine}

/-- The fill is done on the machine that the stub left. -/
theorem untilFilled_admitted (h : i.checks = true → i.Admitted m) :
    i.untilFilled (i.layout.stub m) =
      .ok ⟨.zeroFillComplete, some ⟨i.layout.stubStackPointer⟩⟩
        (i.platform.zeroed i.layout.zeroed (i.layout.stub m)) := by
  cases hchecks : i.checks with
  | false => exact untilFilled_of_resumed (resume_unchecked hchecks) (Or.inl hchecks)
  | true =>
    obtain ⟨hmasked, hfits, hharmless⟩ := h hchecks
    have hresume := i.resume_harmless hfits (i.layout.stub_forward m) hmasked hharmless
    exact untilFilled_of_resumed hresume (Or.inr hharmless.ordered)

/-- A check that finds something stops the image on the machine that the stub left. -/
theorem untilFilled_refused (hchecks : i.checks = true) (h : ¬i.Admitted m) :
    ∃ fault ∈ earlyFaults, i.untilFilled (i.layout.stub m) = .error fault (i.layout.stub m) := by
  have hforward := i.layout.stub_forward m
  by_cases hfits : i.layout.stack.Fits
  case neg => exact ⟨.addOverflow, by decide, bind_of_error (resume_unfit hchecks hfits hforward)⟩
  case pos =>
    rcases hfits.overlaps_cases i.checks i.layout.zeroed with hover | hapart
    · have hresume := i.resume_of_overlaps hfits hforward hover
      rw [hchecks, Bool.true_and, if_pos rfl] at hresume
      exact ⟨.stackInRange, by decide, bind_of_error hresume⟩
    · have hresume := i.resume_of_overlaps hfits hforward hapart
      rw [hchecks, Bool.and_false, if_neg Bool.false_ne_true, Bool.true_and] at hresume
      cases hmasked : (i.layout.stub m).flags.contains .interruptEnable with
      | true =>
        rw [if_pos hmasked] at hresume
        exact ⟨.unmaskedOnEntry, by decide, bind_of_error hresume⟩
      | false =>
        -- with nothing left for the entry to find, the fill finds the bounds inverted
        rw [hmasked, if_neg Bool.false_ne_true] at hresume
        have hharmful : ¬i.layout.Harmless := fun hharmless => h ⟨hmasked, hfits, hharmless⟩
        rcases Layout.harmful_cases hfits hharmful i.checks with hover | ⟨-, hinverted⟩
        · rw [hapart] at hover
          cases hover
        · exact ⟨.subtractOverflow, by decide, untilFilled_inverted hresume hchecks hinverted⟩

/-- The fill is done in silence, and the rest of the run begins on the walk it leaves. -/
structure FilledInSilence (i : Image) (m : Machine) (fill : Walk Machine) : Prop where
  filled : i.untilFilled (i.layout.stub m) = .ok fill.progress fill.machine
  stage : fill.progress.stage = .zeroFillComplete
  /-- The console is as it was found, and no message was formatted. -/
  console : fill.machine.console = m.console
  events : fill.machine.events = m.events ++ [.mask]
  run : ∀ wakes, i.run wakes m = i.afterFill wakes fill

/-- A fault is reported although nothing was zeroed, and the run ends behind its report. -/
structure ReportedUnfilled (i : Image) (m : Machine) (fault : Fault) : Prop where
  early : fault ∈ earlyFaults
  run : ∀ wakes, i.run wakes m =
    (some fault, i.platform.haltLoop wakes (i.build.reported fault (i.layout.stub m)))
  memory : ∀ wakes, (i.run wakes m).2.memory = m.memory
  /-- The port is initialised if it was cold, and the fault goes out on it. -/
  events : ∀ wakes, (i.run wakes m).2.events = m.events ++ .mask :: .mask :: (m.warmUp ++
    fault.notice.spoken .error Build.faultTarget ++ wakes.flatMap fun _ => [.mask, .halt])

theorem filledInSilence (h : i.checks = true → i.Admitted m) :
    ∃ fill, i.FilledInSilence m fill := by
  have hfilled := untilFilled_admitted h
  have hzeroed := i.zeroed_eq i.layout.zeroed (i.layout.stub m)
  have hconsole : (i.platform.zeroed i.layout.zeroed (i.layout.stub m)).console = m.console := by
    rw [hzeroed, i.layout.stub_eq]
  have hevents : (i.platform.zeroed i.layout.zeroed (i.layout.stub m)).events =
      m.events ++ [.mask] := by
    rw [hzeroed, i.layout.stub_eq]
  exact ⟨⟨_, _⟩, hfilled, rfl, hconsole, hevents, run_of_filled hfilled⟩

theorem reportedUnfilled (hfree : m.console.locked = false) (hchecks : i.checks = true)
    (h : ¬i.Admitted m) :
    ∃ fault, i.ReportedUnfilled m fault ∧
      ∀ wakes, i.seenUntilFilled wakes m = (i.run wakes m).2.events := by
  obtain ⟨fault, hearly, hstop⟩ := untilFilled_refused hchecks h
  have hfaithful : i.build.Faithful .native := Or.inr rfl
  have hrun := run_of_stopped hstop
  have hself (wakes : List Bool) : i.run wakes m =
      (some fault, i.platform.haltLoop wakes (i.build.reported fault (i.layout.stub m))) := by
    rw [platform, ← i.build.park_of_plain (ending_early hearly)]
    exact hrun wakes
  refine ⟨fault, ⟨hearly, hself, fun wakes => ?_, fun wakes => ?_⟩, fun wakes => ?_⟩
  · rw [hrun, i.build.memory_park hfaithful (ending_early hearly), i.layout.stub_eq]
  · have hkept : i.build.drops .error (i.layout.stub m).mask = false := by
      have hlocked : (i.layout.stub m).mask.console.locked = false := by
        rw [Machine.console_mask, i.layout.stub_eq]
        exact hfree
      rw [Build.drops, hlocked]
      rfl
    have hwarm : (i.layout.stub m).warmUp = m.warmUp := by
      rw [i.layout.stub_eq, Machine.warmUp, Machine.warmUp]
    rw [hself]
    refine (Platform.events_haltLoop hfaithful wakes _).trans ?_
    rw [i.build.events_reported fault hkept, hwarm, i.layout.stub_eq]
    simp
  · rw [seenUntilFilled, hstop, hrun]

/-- **Nothing is heard of an image until its zero fill is done**, unless it checks and is not
admitted; then the report of the fault is heard, and nothing is ever zeroed. -/
theorem unheard_iff (hnew : m.events = []) (hfree : m.console.locked = false) :
    (i.Unheard m ↔ (i.checks = true → i.Admitted m)) ∧
      ((i.checks = true → i.Admitted m) → ∃ fill, i.FilledInSilence m fill) ∧
      (i.checks = true → ¬i.Admitted m → ∃ fault, i.ReportedUnfilled m fault) := by
  refine ⟨⟨fun hunheard hchecks => ?_, fun h => ?_⟩, filledInSilence, fun hchecks h => ?_⟩
  · refine Classical.byContradiction fun hrefused => ?_
    obtain ⟨fault, hreported, hseen⟩ := reportedUnfilled hfree hchecks hrefused
    have hhead : Event.serial (Machine.recordHead .error Build.faultTarget) ∈
        i.seenUntilFilled [] m := by
      rw [hseen, hreported.events]
      simp [Message.spoken]
    exact absurd (hunheard [] _ hhead) (by decide)
  · obtain ⟨fill, hfill⟩ := filledInSilence h
    intro wakes e he
    have hseen : i.seenUntilFilled wakes m = fill.machine.events := by
      rw [seenUntilFilled, hfill.filled]
    rw [hseen, hfill.events, hnew] at he
    rw [List.mem_singleton.1 he]
    rfl
  · obtain ⟨fault, hreported, -⟩ := reportedUnfilled hfree hchecks h
    exact ⟨fault, hreported⟩

/-- A checked image on a stack at that address. -/
def onStack (bottom : UInt64) (zeroed : Span) : Image where
  checks := true
  layout := { zeroed, stack := ⟨bottom⟩ }
  kernel := .ofErrands (buildOf true) ⟨bottom⟩ 0x20000000 []

/-- Storage up to a stack without alignment, and storage that takes the first byte of it. -/
theorem unheard_iff_unaligned :
    let m : Machine :=
      { flags := ⟨0x602⟩, memory := ⟨0x1ffc, Array.replicate 16 7⟩, console := .idle false }
    let apart := onStack 0x2004 ⟨0x1ffc, 0x2004⟩
    let overlapping := onStack 0x2004 ⟨0x1ffc, 0x2005⟩
    m.events = [] ∧ m.console.locked = false ∧
      (apart.Unheard m ∧ ∃ fill, apart.FilledInSilence m fill) ∧
      (¬overlapping.Unheard m ∧ ∃ fault, overlapping.ReportedUnfilled m fault) := by
  intro m apart overlapping
  have hadmitted : apart.Admitted m := by
    refine ⟨by decide, by decide, by decide, ?_⟩
    rintro a ⟨-, hstop⟩ ⟨hbottom, -⟩
    exact UInt64.not_lt.2 (UInt64.le_iff_toNat_le.2 hbottom) hstop
  have hrefused : ¬overlapping.Admitted m := fun h =>
    h.harmless.apart 0x2004 ⟨by decide, by decide⟩ ⟨by decide, by decide⟩
  have hapart := unheard_iff (i := apart) (m := m) rfl rfl
  have hover := unheard_iff (i := overlapping) (m := m) rfl rfl
  refine ⟨rfl, rfl, ⟨hapart.1.2 fun _ => hadmitted, hapart.2.1 fun _ => hadmitted⟩, ?_,
    hover.2.2 rfl hrefused⟩
  exact fun hunheard => hrefused (hover.1.1 hunheard rfl)

/-- The report on a layout that takes the first byte of the stack is heard, with the storage
as it was found. -/
theorem heard_unfilled :
    let m : Machine :=
      { flags := ⟨0x200⟩, memory := ⟨0x10000000, Array.replicate 64 238⟩, console := .idle false }
    let i := onStack 0x30000000 ⟨0x30000000, 0x30000001⟩
    i.seenUntilFilled [false] m =
        [.mask, .mask, .serialInit 0x3F8, .serial "[ERROR panic] ", .serial "entry.rs:59: ",
          .serial "boot stack inside the zero-fill range", .serial "\n", .mask, .halt] ∧
      ¬i.Unheard m := by
  intro m i
  have hover : i.layout.stack.overlaps i.checks i.layout.zeroed = .ok true := by
    rw [BootStack.Fits.overlaps_eq (by decide)]
    exact congrArg Except.ok (by decide)
  have hstop : i.untilFilled (i.layout.stub m) = .error .stackInRange (i.layout.stub m) :=
    bind_of_error (i.resume_of_overlaps (by decide) (i.layout.stub_forward m) hover)
  have hpark : i.seenUntilFilled [false] m =
      (i.build.park .stackInRange [false] (i.layout.stub m)).events := by
    rw [seenUntilFilled, hstop]
  have hseen : i.seenUntilFilled [false] m =
      [.mask, .mask, .serialInit 0x3F8, .serial "[ERROR panic] ", .serial "entry.rs:59: ",
        .serial "boot stack inside the zero-fill range", .serial "\n", .mask, .halt] := by
    rw [hpark, i.build.park_of_plain rfl]
    decide
  refine ⟨hseen, fun hunheard => ?_⟩
  have hinit : Event.serialInit 0x3F8 ∈ i.seenUntilFilled [false] m := by
    rw [hseen]
    decide
  exact absurd (hunheard [false] _ hinit) (by decide)

end Image

end Handoff
