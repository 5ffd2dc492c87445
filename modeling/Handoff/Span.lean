/-
Half-open address ranges that must read as zero before the kernel runs.

A span is normally built from ordered bounds.  It can also be taken over unchecked
from the linker's boundary symbols, so an inverted span exists as a value, and its
length then underflows: a fault in a checked build, a wrapped word in any other.
-/
import Handoff.Build
import Handoff.Text.Style

namespace Handoff

/-- The addresses from `start` up to, not including, `stop`. -/
structure Span where
  start : UInt64
  stop : UInt64
  deriving DecidableEq

/-- Why a pair of bounds describes no span. -/
inductive LayoutError where
  /-- The span would end before it starts. -/
  | inverted (start stop : UInt64)
  deriving DecidableEq

namespace LayoutError

/-- The error as a value with its two bounds in decimal. -/
def display (style : Style) : LayoutError → String
  | inverted start stop =>
    style.labelled "InvertedRange"
      [("start", Numeral.decimal start.toNat), ("end", Numeral.decimal stop.toNat)]

/-- What the error says: the same text as the value on one line. -/
def message (e : LayoutError) : String :=
  e.display .compact

end LayoutError

namespace Span

/-- The span between ordered bounds. -/
def ofBounds (start stop : UInt64) : Except LayoutError Span :=
  if stop < start then .error (.inverted start stop) else .ok ⟨start, stop⟩

/-- Bounds describe a span if they are in order, and then it is the span between them. -/
theorem ofBounds_eq_ok_iff {start stop : UInt64} {span : Span} :
    ofBounds start stop = .ok span ↔ start ≤ stop ∧ span = ⟨start, stop⟩ := by
  rw [ofBounds, ← UInt64.not_lt]
  by_cases h : stop < start
  · simp [h]
  · simp [h, eq_comm]

/-- Any others are refused, and both are told. -/
theorem ofBounds_eq_error_iff {start stop : UInt64} {e : LayoutError} :
    ofBounds start stop = .error e ↔ stop < start ∧ e = .inverted start stop := by
  rw [ofBounds]
  by_cases h : stop < start
  · simp [h, eq_comm]
  · simp [h]

/-- Two attempts to describe a span agree if both fail alike or give the same span. -/
instance : DecidableEq (Except LayoutError Span)
  | .ok r, .ok s => decidable_of_iff (r = s) (by simp)
  | .error d, .error e => decidable_of_iff (d = e) (by simp)
  | .ok _, .error _ => isFalse (by simp)
  | .error _, .ok _ => isFalse (by simp)

/-- The span of `size` bytes from `start` on. -/
def ofSize (start size : UInt64) : Span :=
  ⟨start, start + size⟩

/-- The number of bytes covered. -/
def length (checks : Bool) (s : Span) : Except Fault UInt64 :=
  Word.sub checks s.stop s.start

/-- Whether the bounds coincide. -/
def isEmpty (s : Span) : Bool :=
  s.start == s.stop

/-- Whether an address lies in the span. -/
def Contains (s : Span) (a : UInt64) : Prop :=
  s.start ≤ a ∧ a < s.stop

instance (s : Span) (a : UInt64) : Decidable (s.Contains a) :=
  inferInstanceAs (Decidable (_ ∧ _))

/-- The span as a value with its two addresses. -/
def display (style : Style) (s : Span) : String :=
  style.labelled "ZeroFillRange" [("start", style.pointer s.start), ("end", style.pointer s.stop)]

end Span

end Handoff
