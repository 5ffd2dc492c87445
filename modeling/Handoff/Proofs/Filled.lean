/-
Step 3 zeroes exactly its span, whatever becomes of the step.

The fill comes before the order check.  So a step that is refused has done to the memory all
that a step that passes does, and what the check decides is the stage alone, and whether
there is a record.  Here that is put together from three facts: a fill zeroes the bytes of the
span and no others on every processor, it is asked for once or for an empty span not at all,
and neither the stage nor a record has any part in what was filled.

A span is a pair of bounds, so all of this holds however its bounds were come by.
-/
import Handoff.Proofs.Bounds
import Handoff.Proofs.Faults
import Handoff.Proofs.Zeroing

namespace Handoff

/-- Whether something was to be zeroed. -/
def Order.isZero : Order → Bool
  | zero _ _ => true
  | _ => false

/-- What is ordered for bounds that are in order is one fill of all between them. -/
theorem Span.orders_eq {span : Span} (hle : span.start ≤ span.stop) :
    span.orders =
      if span.start < span.stop then [.zero span.start (span.stop - span.start)] else [] := by
  unfold orders
  by_cases hempty : span.start = span.stop
  · rw [if_pos (by simp [isEmpty, hempty]), if_neg (by simp [hempty])]
  · have hlt : span.start < span.stop := UInt64.lt_of_le_of_ne hle hempty
    rw [if_neg (by simp [isEmpty, hempty]), if_pos hlt]

/-- The record of a zero fill. -/
def Order.filled (span : Span) : Order :=
  .report .debug Boot.target (Boot.zeroFillText span.start (span.stop - span.start))

/-- All orders to zero a span are such orders. -/
theorem Span.filter_orders (span : Span) : span.orders.filter Order.isZero = span.orders := by
  unfold orders
  split
  · rfl
  · rfl

/-- What is the same of two walks but for the span being zeroed, and the orders that were given
to zero it. -/
structure Walk.Filled (span : Span) (w : Walk Machine) (v : Walk (Traced Machine)) : Prop where
  bytes : ∀ a, v.machine.machine.memory.byte? a =
    if span.Contains a then some 0 else w.machine.memory.byte? a
  flags : v.machine.machine.flags = w.machine.flags
  stackTop : v.progress.stackTop = w.progress.stackTop
  /-- The processor zeroes the whole span at once, and nothing of an empty one. -/
  zeroings : v.machine.orders.filter Order.isZero =
    if span.start < span.stop then [.zero span.start (span.stop - span.start)] else []

namespace Walk.Filled

variable {b : Build} {cpu : Processor} {span : Span} {w : Walk Machine} {v : Walk (Traced Machine)}

/-- The fill itself. -/
theorem zeroed (b : Build) (cpu : Processor) (hle : span.start ≤ span.stop)
    (hwritable : w.machine.memory.Writable span) :
    Filled span w
      { w.fresh with machine := (b.platform cpu).traced.zeroed span (.fresh w.machine) } where
  bytes a := by
    rw [Platform.machine_zeroed]
    exact b.byte?_zeroed cpu span w.machine hle hwritable a
  flags := by
    rw [Platform.machine_zeroed]
    exact b.flags_zeroed cpu span w.machine
  stackTop := rfl
  zeroings := by
    rw [Platform.orders_zeroed, Traced.orders_fresh, List.nil_append, span.filter_orders,
      span.orders_eq hle]

/-- What was filled stays so at any stage. -/
theorem arrive (h : Filled span w v) (stage : Stage) : Filled span w (v.arrive stage) :=
  ⟨h.bytes, h.flags, h.stackTop, h.zeroings⟩

/-- And through any record. -/
theorem report (h : Filled span w v) (level : Level) (target text : String) :
    Filled span w
      (v.give (.report level target text) ((b.platform cpu).report level target text)) where
  bytes a := by
    show ((b.platform cpu).report level target text v.machine.machine).memory.byte? a = _
    rw [b.report_platform, b.memory_logText, h.bytes]
  flags := by
    show ((b.platform cpu).report level target text v.machine.machine).flags = _
    rw [b.report_platform, b.flags_logText, h.flags]
  stackTop := h.stackTop
  zeroings := by
    show (v.machine.give _ _).orders.filter Order.isZero = _
    rw [Traced.orders_give, List.filter_append, h.zeroings]
    exact List.append_nil _

end Walk.Filled

namespace Boot

variable (b : Build) (cpu : Processor) {span : Span} {w : Walk Machine}
  (hle : span.start ≤ span.stop) (hwritable : w.machine.memory.Writable span)
include hle hwritable

/-- A step that is not refused fills, goes on and makes its record. -/
theorem zeroFill_passes (hgo : w.progress.stage = .stackEstablished ∨ b.checks = false) :
    ∃ v, zeroFill (b.platform cpu).traced span w.fresh = .ok () v ∧ w.Filled span v ∧
      v.progress.stage = .zeroFillComplete ∧ v.machine.orders = span.orders ++ [.filled span] := by
  have hchecks : (b.platform cpu).traced.checks = b.checks := b.checks_platform cpu
  have hfilled := Walk.Filled.zeroed b cpu hle hwritable
  have hstep := zeroFill_eq (b.platform cpu).traced w.fresh (Or.inr hle)
  rw [bind_of_ok, report_eq] at hstep
  · refine ⟨_, hstep, (hfilled.arrive .zeroFillComplete).report .., rfl, ?_⟩
    show (Traced.give _ _ _).orders = _
    rw [Traced.orders_give]
    show ((b.platform cpu).traced.zeroed span (.fresh w.machine)).orders ++ _ = _
    rw [Platform.orders_zeroed]
    rfl
  · rcases hgo with hdue | hunchecked
    · refine advance_of_next ?_
      show w.progress.stage.next = _
      rw [hdue]
      rfl
    · exact advance_of_unchecked (hchecks.trans hunchecked)

/-- A step that is refused has filled all the same. -/
theorem zeroFill_refused (hchecks : b.checks = true)
    (hstage : w.progress.stage ≠ .stackEstablished) :
    ∃ v, zeroFill (b.platform cpu).traced span w.fresh =
        .error (.outOfOrder w.progress.stage.next .zeroFillComplete) v ∧
      w.Filled span v ∧ v.progress.stage = w.progress.stage ∧ v.machine.orders = span.orders := by
  have htraced : (b.platform cpu).traced.checks = true := (b.checks_platform cpu).trans hchecks
  have hfilled := Walk.Filled.zeroed b cpu hle hwritable
  refine ⟨_, (zeroFill_error_iff htraced).2 (Or.inr ⟨hle, hstage, rfl, rfl⟩), hfilled, rfl, ?_⟩
  show ((b.platform cpu).traced.zeroed span (.fresh w.machine)).orders = _
  rw [Platform.orders_zeroed]
  rfl

end Boot

/-- How a zero fill ends that has no fault in its span. -/
structure Boot.FillsExactly (b : Build) (cpu : Processor) (span : Span) (w : Walk Machine)
    (v : Walk (Traced Machine)) : Prop where
  /-- The trace is of the step as it is without one. -/
  untraced : zeroFill (b.platform cpu) span w =
    shown Traced.machine (zeroFill (b.platform cpu).traced span w.fresh)
  filled : w.Filled span v
  /-- It ends well, a stage further, if the step is in order or the order is not checked. -/
  passed : w.progress.stage = .stackEstablished ∨ b.checks = false →
    zeroFill (b.platform cpu).traced span w.fresh = .ok () v ∧
      v.progress.stage = .zeroFillComplete
  /-- If not it is refused, at the stage it was. -/
  refused : ¬(w.progress.stage = .stackEstablished ∨ b.checks = false) →
    zeroFill (b.platform cpu).traced span w.fresh =
        .error (.outOfOrder w.progress.stage.next .zeroFillComplete) v ∧
      v.progress.stage = w.progress.stage

/-- **Step 3 zeroes exactly its span**, on every build and processor and at every stage. -/
theorem Boot.zeroFill_exact (b : Build) (cpu : Processor) {span : Span} {w : Walk Machine}
    (hle : span.start ≤ span.stop) (hwritable : w.machine.memory.Writable span) :
    ∃ v, FillsExactly b cpu span w v := by
  have huntraced := zeroFill_untraced (b.platform cpu) span w
  by_cases hgo : w.progress.stage = .stackEstablished ∨ b.checks = false
  · obtain ⟨v, hstep, hfilled, hstage, -⟩ := zeroFill_passes b cpu hle hwritable hgo
    exact ⟨v, huntraced, hfilled, fun _ => ⟨hstep, hstage⟩, fun hnot => absurd hgo hnot⟩
  · obtain ⟨hstage, hchecks⟩ := not_or.1 hgo
    obtain ⟨v, hstep, hfilled, hsame, -⟩ :=
      zeroFill_refused b cpu hle hwritable (by simpa using hchecks) hstage
    exact ⟨v, huntraced, hfilled, fun hyes => absurd hyes hgo, fun _ => ⟨hstep, hsame⟩⟩

/-- A part of a memory can be filled as a whole, if its addresses do not wrap. -/
theorem Extent.part_writable {m : Memory} {first last : UInt64} (hle : first ≤ last)
    (hlast : last.toNat ≤ m.bytes.size) (hword : m.base.toNat + m.bytes.size < UInt64.size) :
    ∃ span, (Extent.part first last).span m = .ok span ∧ span.start ≤ span.stop ∧
      m.Writable span := by
  have hpart : Inside m first last := ⟨hle, hlast, hword⟩
  refine ⟨_, span_part m first last, hpart.le, ?_⟩
  rintro a ⟨hlow, hhigh⟩
  rw [UInt64.le_iff_toNat_le, hpart.toNat_first] at hlow
  rw [UInt64.lt_iff_toNat_lt, hpart.toNat_last] at hhigh
  rw [Memory.byte?_isSome]
  omega

/-- A part of a memory that is filled too early: the bytes are zero, and the step is refused. -/
theorem Boot.zeroFill_exact_early :
    let w : Walk Machine :=
      ⟨.start, { flags := ⟨0x202⟩, memory := ⟨0x1000, #[1, 2, 3, 4]⟩, console := .idle false }⟩
    let span : Span := ⟨0x1001, 0x1003⟩
    (Extent.part 1 3).span w.machine.memory = .ok span ∧ span.start ≤ span.stop ∧
      w.machine.memory.Writable span ∧
      ∃ v, FillsExactly .metalDebug .native span w v ∧
        zeroFill (Build.metalDebug.platform .native).traced span w.fresh =
          .error (.outOfOrder (some .interruptsMasked) .zeroFillComplete) v ∧
        v.machine.machine.memory.byte? 0x1001 = some 0 ∧
        v.machine.machine.memory.byte? 0x1003 = some 4 := by
  intro w span
  have hspan : (Extent.part 1 3).span w.machine.memory = .ok span := rfl
  have horder : (1 : UInt64) ≤ 3 := by decide
  obtain ⟨part, hpart, hle, hwritable⟩ :=
    Extent.part_writable (m := w.machine.memory) horder (by decide) (by decide)
  obtain rfl : span = part := by rw [hspan] at hpart; exact Except.ok.inj hpart
  obtain ⟨v, hv⟩ := zeroFill_exact .metalDebug .native hle hwritable
  refine ⟨hspan, hle, hwritable, v, hv, (hv.refused (by decide)).1, ?_, ?_⟩
  · rw [hv.filled.bytes]
    decide
  · rw [hv.filled.bytes]
    decide

end Handoff
