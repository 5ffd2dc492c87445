/-
What a linker script asserts about the addresses it publishes.

An assertion is a value with two readings: its text, which the linker checks after
it has placed everything, and the condition it puts on the layout that comes out.
-/
import Handoff.Image

namespace Handoff

namespace LinkerScript

/-- The addresses that the script publishes. -/
inductive Symbol where
  | bssStart
  | bssEnd
  | stackBottom
  | stackTop
  deriving DecidableEq

namespace Symbol

/-- The name a symbol is published under. -/
def name : Symbol → String
  | bssStart => "__bss_start"
  | bssEnd => "__bss_end"
  | stackBottom => "__boot_stack_bottom"
  | stackTop => "__boot_stack_top"

/-- The value of a symbol in a layout. -/
def value (l : Layout) : Symbol → UInt64
  | bssStart => l.zeroed.start
  | bssEnd => l.zeroed.stop
  | stackBottom => l.stack.bottom
  | stackTop => l.stack.bottom + BootStack.size

end Symbol

/-! ### Assertions -/

/-- A quantity that an assertion compares. -/
inductive Quantity where
  | symbol (s : Symbol)
  | difference (high low : Symbol)
  | constant (n : UInt64)
  deriving DecidableEq

namespace Quantity

/-- The quantity as an expression of the script. -/
def text : Quantity → String
  | symbol s => s.name
  | difference high low => high.name ++ " - " ++ low.name
  | constant n => Numeral.hexadecimal n.toNat

/-- The quantity in a layout. -/
def value (l : Layout) : Quantity → UInt64
  | symbol s => s.value l
  | difference high low => high.value l - low.value l
  | constant n => n

end Quantity

/-- The demand that one quantity is no less than another. -/
structure Assertion where
  quantity : Quantity
  bound : Quantity
  complaint : String
  deriving DecidableEq

namespace Assertion

/-- The assertion as the script states it. -/
def text (a : Assertion) : String :=
  "ASSERT(" ++ a.quantity.text ++ " >= " ++ a.bound.text ++ ", \"" ++ a.complaint ++ "\")"

/-- Whether a layout meets the demand. -/
def Holds (l : Layout) (a : Assertion) : Prop :=
  a.bound.value l ≤ a.quantity.value l

instance (l : Layout) (a : Assertion) : Decidable (a.Holds l) :=
  inferInstanceAs (Decidable (_ ≤ _))

end Assertion

end LinkerScript

end Handoff
