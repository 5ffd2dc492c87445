/-
What two bounds describe.

A span compares its bounds three times over: in order when it is built, by subtraction for
its length, and for equality to tell whether it is empty.  On bounds in order the three agree
in every build.  On inverted ones the first refuses, and behind it only spans that were taken
as they are can come to the subtraction, which wraps in one build and faults in the other;
emptiness is the same question as a length of zero even then.

What is refused is told by its two bounds in decimal.  They are the only digits in the text,
so the pair can be read off it, and different pairs are told differently.
-/
import Handoff.Proofs.Numeral
import Handoff.Proofs.Steps
import Handoff.Session.Step

namespace Handoff

/-! ### Numerals among other text -/

namespace Numeral

/-- A character that is no digit parts the numerals before it from those behind it. -/
theorem runs_append {c : Char} (hc : c.isDigit = false) (s t : String) :
    runs (s ++ String.singleton c ++ t) = runs s ++ runs t := by
  have hmark : (s ++ String.singleton c ++ t).toList = s.toList ++ c :: t.toList := by simp
  simp only [runs, hmark, List.map_append, List.map_cons, hc, Bool.false_eq_true, ↓reduceIte]
  rw [Text.splitOn_append, List.filterMap_append]

theorem runs_decimal (n : Nat) : runs (decimal n) = [n] := by
  have hsame : (decimal n).toList.map (fun c => if c.isDigit then c else ' ') =
      Nat.toDigits 10 n := by
    rw [toList_decimal]
    refine (List.map_congr_left fun c hc => ?_).trans (List.map_id _)
    exact if_pos (Nat.isDigit_of_mem_toDigits (by decide) (by decide) hc)
  have hsolid : ' ' ∉ (decimal n).toList :=
    not_mem_decimal (fun _ => Nat.digitChar_ne ' ' (by decide)) n
  rw [toList_decimal] at hsolid
  rw [runs, hsame, Text.splitOn_of_not_mem hsolid, List.filterMap_cons,
    read?_toDigits (by decide) (by decide)]
  rfl

end Numeral

namespace LayoutError

theorem message_inverted (start stop : UInt64) :
    (inverted start stop).message =
      "InvertedRange \x7b start: " ++ Numeral.decimal start.toNat ++ ", end: " ++
        Numeral.decimal stop.toNat ++ " \x7d" := by
  rw [← String.toList_inj]
  simp [message, display, Style.labelled, Style.enclose]

/-- The two bounds can be read off the text. -/
theorem runs_message (start stop : UInt64) :
    Numeral.runs (inverted start stop).message = [start.toNat, stop.toNat] := by
  have hparts : (inverted start stop).message =
      "InvertedRange \x7b start:" ++ String.singleton ' ' ++
        (Numeral.decimal start.toNat ++ String.singleton ',' ++ (" end:" ++ String.singleton ' ' ++
          (Numeral.decimal stop.toNat ++ String.singleton ' ' ++ "\x7d"))) := by
    rw [message_inverted, ← String.toList_inj]
    simp
  rw [hparts, Numeral.runs_append rfl, Numeral.runs_append rfl, Numeral.runs_append rfl,
    Numeral.runs_append rfl, Numeral.runs_decimal, Numeral.runs_decimal]
  rfl

/-- Different errors have different texts. -/
theorem message_inj {e e' : LayoutError} (h : e.message = e'.message) : e = e' := by
  cases e with
  | inverted start stop =>
  cases e' with
  | inverted start' stop' =>
    have hruns := congrArg Numeral.runs h
    rw [runs_message, runs_message] at hruns
    simp only [List.cons.injEq, UInt64.toNat_inj, and_true] at hruns
    rw [hruns.1, hruns.2]

end LayoutError

namespace Span

/-! ### Lengths -/

/-- The length is what the start lacks of the end, all round the word if they are inverted. -/
theorem start_add_length (span : Span) :
    (span.start.toNat + (span.stop - span.start).toNat) % UInt64.size = span.stop.toNat := by
  have hsum : (span.start + (span.stop - span.start)).toNat = span.stop.toNat := by
    rw [UInt64.add_comm, UInt64.sub_add_cancel]
  rw [← hsum, UInt64.toNat_add]

theorem isEmpty_iff (span : Span) : span.isEmpty = true ↔ span.stop - span.start = 0 := by
  rw [isEmpty, beq_iff_eq]
  constructor
  · intro h
    rw [h, UInt64.sub_self]
  · intro h
    have hstop := UInt64.sub_add_cancel span.stop span.start
    rwa [h, UInt64.zero_add] at hstop

/-- With overflows checked, the length of a span faults where its bounds are inverted. -/
theorem length_error_iff (span : Span) (fault : Fault) :
    span.length true = .error fault ↔ span.stop < span.start ∧ fault = .subtractOverflow := by
  by_cases h : span.stop < span.start
  · simp [length_of_inverted h, h, eq_comm]
  · simp [length_of_le (UInt64.not_lt.1 h), h]

/-- What is known of the span between two bounds, checked or taken as they are. -/
structure Bounded (start stop : UInt64) : Prop where
  accepted : (∃ span, ofBounds start stop = .ok span) ↔ start ≤ stop
  kept : ∀ span, ofBounds start stop = .ok span → span.start = start ∧ span.stop = stop
  /-- The length of what is accepted, in every build. -/
  measured : ∀ span, ofBounds start stop = .ok span → ∃ length : UInt64,
    (∀ checks, span.length checks = .ok length) ∧
      start.toNat + length.toNat = stop.toNat ∧ (span.isEmpty = true ↔ length = 0)
  refused : (∃ e, ofBounds start stop = .error e) ↔ stop < start
  /-- The error says what it is as a value, and with it the two bounds. -/
  told : ∀ e, ofBounds start stop = .error e →
    e.message = e.display .compact ∧ Numeral.runs e.message = [start.toNat, stop.toNat]
  /-- The length of the bounds as they are, where overflows are not checked. -/
  unchecked : ∃ length : UInt64, (⟨start, stop⟩ : Span).length false = .ok length ∧
    (start.toNat + length.toNat) % UInt64.size = stop.toNat ∧
      ((⟨start, stop⟩ : Span).isEmpty = true ↔ length = 0)
  checked : ∀ fault, (⟨start, stop⟩ : Span).length true = .error fault ↔
    stop < start ∧ fault = .subtractOverflow

theorem bounded (start stop : UInt64) : Bounded start stop where
  accepted := by
    constructor
    · rintro ⟨span, hspan⟩
      exact (ofBounds_eq_ok_iff.1 hspan).1
    · intro hle
      exact ⟨_, ofBounds_eq_ok_iff.2 ⟨hle, rfl⟩⟩
  kept span hspan := by
    obtain ⟨-, rfl⟩ := ofBounds_eq_ok_iff.1 hspan
    exact ⟨rfl, rfl⟩
  measured span hspan := by
    obtain ⟨hle, rfl⟩ := ofBounds_eq_ok_iff.1 hspan
    refine ⟨stop - start, length_of_le hle, ?_, isEmpty_iff _⟩
    rw [UInt64.toNat_sub_of_le _ _ hle]
    exact Nat.add_sub_cancel' (UInt64.le_iff_toNat_le.1 hle)
  refused := by
    constructor
    · rintro ⟨e, he⟩
      exact (ofBounds_eq_error_iff.1 he).1
    · intro hlt
      exact ⟨_, ofBounds_eq_error_iff.2 ⟨hlt, rfl⟩⟩
  told e he := by
    obtain ⟨-, rfl⟩ := ofBounds_eq_error_iff.1 he
    exact ⟨rfl, LayoutError.runs_message start stop⟩
  unchecked := ⟨stop - start, rfl, start_add_length ⟨start, stop⟩, isEmpty_iff _⟩
  checked := length_error_iff ⟨start, stop⟩

end Span

/-! ### Parts of a memory -/

namespace Extent

/-- A part is built from its start and its size, which comes to its end points. -/
theorem span_part (m : Memory) (first last : UInt64) :
    (part first last).span m = .ok ⟨m.base + first, m.base + last⟩ := by
  have hstop : m.base + first + (last - first) = m.base + last := by
    rw [UInt64.add_assoc, UInt64.add_comm first, UInt64.sub_add_cancel]
  rw [span, Span.ofSize, hstop]

/-- The offsets bound a part of the memory, and no address of the memory wraps. -/
structure Inside (m : Memory) (first last : UInt64) : Prop where
  ordered : first ≤ last
  inside : last.toNat ≤ m.bytes.size
  word : m.base.toNat + m.bytes.size < UInt64.size

namespace Inside

variable {m : Memory} {first last : UInt64} (h : Inside m first last)
include h

theorem toNat_first : (m.base + first).toNat = m.base.toNat + first.toNat := by
  have hordered := UInt64.le_iff_toNat_le.1 h.ordered
  have hinside := h.inside
  have hword := h.word
  have hsize : UInt64.size = 2 ^ 64 := rfl
  rw [UInt64.toNat_add, Nat.mod_eq_of_lt (by omega)]

theorem toNat_last : (m.base + last).toNat = m.base.toNat + last.toNat := by
  have hinside := h.inside
  have hword := h.word
  have hsize : UInt64.size = 2 ^ 64 := rfl
  rw [UInt64.toNat_add, Nat.mod_eq_of_lt (by omega)]

/-- Its end points are in order. -/
theorem le : m.base + first ≤ m.base + last := by
  have hordered := UInt64.le_iff_toNat_le.1 h.ordered
  rw [UInt64.le_iff_toNat_le, h.toNat_first, h.toNat_last]
  omega

/-- The span of the part is the one between its end points. -/
theorem span_eq_ofBounds :
    (part first last).span m = Span.ofBounds (m.base + first) (m.base + last) := by
  rw [span_part, Span.ofBounds_eq_ok_iff.2 ⟨h.le, rfl⟩]

end Inside

end Extent

/-- **Bounds, length and emptiness of a span agree** wherever a span is described, refused bounds
can be read off what is said of them, and a part of a memory is the span between its end
points. -/
theorem Span.bounds_agree (start stop : UInt64) :
    Bounded start stop ∧
      (∀ start' stop' e e', ofBounds start stop = .error e → ofBounds start' stop' = .error e' →
        e.message = e'.message → start = start' ∧ stop = stop') ∧
      ∀ (m : Memory) (first last : UInt64), Extent.Inside m first last →
        (Extent.part first last).span m = ofBounds (m.base + first) (m.base + last) ∧
          (m.base + first).toNat = m.base.toNat + first.toNat ∧
          (m.base + last).toNat = m.base.toNat + last.toNat := by
  refine ⟨bounded start stop, fun start' stop' e e' he he' hmessage => ?_, fun m first last h => ?_⟩
  · obtain ⟨-, rfl⟩ := ofBounds_eq_error_iff.1 he
    obtain ⟨-, rfl⟩ := ofBounds_eq_error_iff.1 he'
    have hsame := LayoutError.message_inj hmessage
    rw [LayoutError.inverted.injEq] at hsame
    exact hsame
  · exact ⟨h.span_eq_ofBounds, h.toNat_first, h.toNat_last⟩

/-- All addresses but the last, the same bounds inverted, and the end of a memory that ends with
the last address but one. -/
theorem Span.bounds_agree_widest :
    let m : Memory := ⟨0xfffffffffffffffd, #[1, 2]⟩
    Bounded 0 0xffffffffffffffff ∧
      ofBounds 0xffffffffffffffff 0 = .error (.inverted 0xffffffffffffffff 0) ∧
      Numeral.runs (LayoutError.inverted 0xffffffffffffffff 0).message = [UInt64.size - 1, 0] ∧
      (LayoutError.inverted 0xffffffffffffffff 0).message ≠ (LayoutError.inverted 1 0).message ∧
      Extent.Inside m 1 2 ∧
      (Extent.part 1 2).span m = ofBounds 0xfffffffffffffffe 0xffffffffffffffff := by
  intro m
  have hinside : Extent.Inside m 1 2 := ⟨by decide, by decide, by decide⟩
  have hrefused : ofBounds 0xffffffffffffffff 0 = .error (.inverted 0xffffffffffffffff 0) := rfl
  have hone : ofBounds 1 0 = .error (.inverted 1 0) := rfl
  obtain ⟨hbounded, hdiffer, hpart⟩ := bounds_agree 0xffffffffffffffff 0
  refine ⟨(bounds_agree 0 0xffffffffffffffff).1, hrefused, (hbounded.told _ hrefused).2,
    fun hsame => ?_, hinside, (hpart m 1 2 hinside).1⟩
  exact absurd (hdiffer _ _ _ _ hrefused hone hsame).1 (by decide)

end Handoff
