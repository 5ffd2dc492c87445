/-
Which zero fills damage the boot stack.

The comparison of bounds was shown to look for an address that the span and the stack have in
common.  What it is there for is another piece of code, the fill, and the two are joined here.
A fill makes zeros of the span and leaves the rest, so in a stack without a zero it changes a
byte exactly at such an address.  It comes before the order check, so all of this is so as well
where the step is then refused.
-/
import Handoff.Proofs.Admitted
import Handoff.Proofs.Overlap

namespace Handoff

/-- Bounds that describe a span are in order. -/
theorem Span.le_of_ofBounds {start stop : UInt64} {span : Span}
    (h : ofBounds start stop = .ok span) : span.start ≤ span.stop := by
  obtain ⟨hle, rfl⟩ := ofBounds_eq_ok_iff.1 h
  exact hle

/-- Whatever becomes of a zero fill, the memory that it leaves is filled. -/
theorem Boot.memory_left_zeroFill (b : Build) (cpu : Processor) {span : Span}
    (hle : span.start ≤ span.stop) (w : Walk Machine) :
    (left (zeroFill (b.platform cpu) span w)).machine.memory =
      ((b.platform cpu).zeroed span w.machine).memory := by
  rw [zeroFill_eq _ w (Or.inr hle)]
  rcases advance_cases (b.platform cpu)
      { w with machine := (b.platform cpu).zeroed span w.machine } .zeroFillComplete with
    ⟨-, hstop⟩ | hgo
  · rw [bind_of_error hstop]
    rfl
  · rw [bind_of_ok hgo, report_eq, b.report_platform]
    exact b.memory_logText ..

namespace BootStack

/-- Every byte of the stack is there, and none of them is zero. -/
def Marked (s : BootStack) (m : Memory) : Prop :=
  ∀ a, s.Contains a → ∃ byte, m.byte? a = some byte ∧ byte ≠ 0

/-- Some byte of the stack is no longer what it was. -/
def Damaged (s : BootStack) (m n : Memory) : Prop :=
  ∃ a, s.Contains a ∧ n.byte? a ≠ m.byte? a

/-- A fill damages a marked stack where the two meet, and only there. -/
theorem damaged_zeroFill_iff (b : Build) (cpu : Processor) {s : BootStack} {r : Span}
    (hle : r.start ≤ r.stop) {w : Walk Machine} (hwritable : w.machine.memory.Writable r)
    (hmarked : s.Marked w.machine.memory) :
    s.Damaged w.machine.memory
        (Boot.left (Boot.zeroFill (b.platform cpu) r w)).machine.memory ↔
      ∃ a, r.Contains a ∧ s.Contains a := by
  have hbytes : ∀ a, (Boot.left (Boot.zeroFill (b.platform cpu) r w)).machine.memory.byte? a =
      if r.Contains a then some 0 else w.machine.memory.byte? a := by
    intro a
    rw [Boot.memory_left_zeroFill b cpu hle w]
    exact b.byte?_zeroed cpu r w.machine hle hwritable a
  constructor
  · rintro ⟨a, hin, hchanged⟩
    refine ⟨a, Classical.byContradiction fun hout => hchanged ?_, hin⟩
    rw [hbytes, if_neg hout]
  · rintro ⟨a, hzeroed, hin⟩
    obtain ⟨byte, hbyte, hne⟩ := hmarked a hin
    refine ⟨a, hin, fun hsame => hne ?_⟩
    rw [hbytes, if_pos hzeroed, hbyte] at hsame
    exact (Option.some.inj hsame).symm

/-- What the comparison of bounds says of a span is true of its addresses, and of its fill. -/
structure Judges (s : BootStack) (r : Span) : Prop where
  shared : ∀ checks, ∃ answer, s.overlaps checks r = .ok answer ∧
    (answer = true ↔ ∃ a, r.Contains a ∧ s.Contains a)
  /-- On every build and processor, and also if the step is refused. -/
  damaged : ∀ checks (b : Build) cpu (w : Walk Machine), w.machine.memory.Writable r →
    s.Marked w.machine.memory →
    (s.Damaged w.machine.memory (Boot.left (Boot.zeroFill (b.platform cpu) r w)).machine.memory ↔
      s.overlaps checks r = .ok true)

/-- **The comparison tells exactly which zero fills reach into the stack.** -/
theorem judges_of_ofBounds {s : BootStack} (hfits : s.Fits) {start stop : UInt64} {r : Span}
    (hr : Span.ofBounds start stop = .ok r) : s.Judges r where
  shared checks := by
    have hiff := hfits.overlaps_iff checks (Span.le_of_ofBounds hr)
    rcases hfits.overlaps_cases checks r with hover | hapart
    · exact ⟨true, hover, by simp [← hiff, hover]⟩
    · exact ⟨false, hapart, by simp [← hiff, hapart]⟩
  damaged checks b cpu w hwritable hmarked := by
    have hle := Span.le_of_ofBounds hr
    rw [damaged_zeroFill_iff b cpu hle hwritable hmarked, hfits.overlaps_iff checks hle]

/-- A span that ends with the first byte of the stack damages it, in a fill that is refused; one
that ends right before it does not. -/
theorem judges_of_ofBounds_at_bottom :
    let s : BootStack := ⟨0x1000⟩
    let w : Walk Machine := ⟨.start, { flags := ⟨0x202⟩, console := .idle false
                                       memory := ⟨0xff0, Array.replicate 65552 0xee⟩ }⟩
    let after (r : Span) : Memory :=
      (Boot.left (Boot.zeroFill (Build.metalDebug.platform .native) r w)).machine.memory
    s.Fits ∧ Span.ofBounds 0xff0 0x1001 = .ok ⟨0xff0, 0x1001⟩ ∧
      Span.ofBounds 0xff0 0x1000 = .ok ⟨0xff0, 0x1000⟩ ∧
      s.Damaged w.machine.memory (after ⟨0xff0, 0x1001⟩) ∧
      ¬s.Damaged w.machine.memory (after ⟨0xff0, 0x1000⟩) := by
  intro s w after
  have hsize : size.toNat = 65536 := by decide
  have hfits : s.Fits := by decide
  have hthere : ∀ a : UInt64, 0xff0 ≤ a.toNat → a.toNat < 0xff0 + 65552 →
      w.machine.memory.byte? a = some 0xee := by
    intro a hlow hhigh
    have hbase : (0xff0 : UInt64) ≤ a := UInt64.le_iff_toNat_le.2 hlow
    have hoff : a.toNat - (0xff0 : UInt64).toNat < 65552 := by
      show a.toNat - 0xff0 < 65552
      omega
    simp only [w, Memory.byte?, hbase, ↓reduceIte, Array.getElem?_replicate, hoff]
  have hmarked : s.Marked w.machine.memory := by
    rintro a ⟨hlow, hhigh⟩
    change 0x1000 ≤ a.toNat at hlow
    change a.toNat < 0x1000 + size.toNat at hhigh
    exact ⟨0xee, hthere a (by omega) (by omega), by decide⟩
  have hwritable : ∀ stop : UInt64, stop.toNat ≤ 0x1001 →
      w.machine.memory.Writable ⟨0xff0, stop⟩ := by
    rintro stop hstop a ⟨hlow, hhigh⟩
    have hlow' : 0xff0 ≤ a.toNat := UInt64.le_iff_toNat_le.1 hlow
    have hhigh' : a.toNat < stop.toNat := UInt64.lt_iff_toNat_lt.1 hhigh
    rw [hthere a hlow' (by omega)]
    rfl
  have hin : Span.ofBounds 0xff0 0x1001 = .ok ⟨0xff0, 0x1001⟩ := rfl
  have hout : Span.ofBounds 0xff0 0x1000 = .ok ⟨0xff0, 0x1000⟩ := rfl
  have hover : s.overlaps true ⟨0xff0, 0x1001⟩ = .ok true :=
    (hfits.overlaps_eq true _).trans (congrArg Except.ok (by decide))
  have hapart : s.overlaps true ⟨0xff0, 0x1000⟩ = .ok false :=
    (hfits.overlaps_eq true _).trans (congrArg Except.ok (by decide))
  have hdamaged := fun {stop} {r} (hr : Span.ofBounds 0xff0 stop = .ok r) =>
    (judges_of_ofBounds hfits hr).damaged true .metalDebug .native w
  refine ⟨hfits, hin, hout, ?_, ?_⟩
  · exact (hdamaged hin (hwritable _ (by decide)) hmarked).2 hover
  · intro hstruck
    have hagain := (hdamaged hout (hwritable _ (by decide)) hmarked).1 hstruck
    rw [hapart] at hagain
    cases hagain

end BootStack

end Handoff
