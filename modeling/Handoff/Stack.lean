/-
The statically reserved boot stack, and the stack pointers derived from it.

The stack is only ever addressed.  Its top is rounded down to the alignment that
calls demand, and a zero fill must keep clear of it.
-/
import Handoff.Span

namespace Handoff

/-- A stack pointer rounded down to the call alignment. -/
structure StackTop where
  raw : UInt64
  deriving DecidableEq

namespace StackTop

/-- The alignment of the stack at every call. -/
def alignment : UInt64 := 16

/-- Rounds an address down to the call alignment. -/
def alignDown (raw : UInt64) : StackTop :=
  ⟨raw &&& ~~~(alignment - 1)⟩

/-- Stack tops are ordered as addresses. -/
instance : Ord StackTop where
  compare s t := compare s.raw t.raw

instance : LE StackTop := leOfOrd
instance : Max StackTop := maxOfLe

/-- The greatest of some stack tops. -/
def greatest? : List StackTop → Option StackTop
  | [] => none
  | t :: ts => some (ts.foldl max t)

/-- The stack top as a value, in decimal. -/
def display (style : Style) (t : StackTop) : String :=
  style.bare "StackTop" [Numeral.decimal t.raw.toNat]

end StackTop

/-- The memory set aside as the boot stack, named by its lowest address. -/
structure BootStack where
  bottom : UInt64
  deriving DecidableEq

namespace BootStack

/-- The size of the boot stack: 64 KiB. -/
def size : UInt64 := 64 * 1024

/-- One past the highest byte, before alignment. -/
def rawTop (checks : Bool) (s : BootStack) : Except Fault UInt64 :=
  Word.add checks s.bottom size

/-- The stack pointer to start from. -/
def top (checks : Bool) (s : BootStack) : Except Fault StackTop :=
  (s.rawTop checks).map StackTop.alignDown

/-- Whether zeroing the span would write into the stack.  An empty span overlaps
nothing; the top is computed only for one that is not empty. -/
def overlaps (checks : Bool) (s : BootStack) (r : Span) : Except Fault Bool :=
  if r.isEmpty then .ok false
  else (s.rawTop checks).map fun top => r.start < top && s.bottom < r.stop

end BootStack

end Handoff
