/-
The two processor flags the hand-off cares about, as a set over a whole word.

A set may hold bits beyond the known ones; they are kept by every operation except
those that say otherwise.
-/
import Handoff.Text.Numeral

namespace Handoff

/-- A set of processor flags, one bit each. -/
structure Flags where
  bits : UInt64
  deriving DecidableEq

namespace Flags

/-- Maskable interrupts are delivered. -/
def interruptEnable : Flags := ⟨(1 : UInt64) <<< 9⟩

/-- String instructions walk towards lower addresses. -/
def direction : Flags := ⟨(1 : UInt64) <<< 10⟩

/-- The known flags with their names, in the order they are listed. -/
def known : List (String × Flags) :=
  [("INTERRUPT_ENABLE", interruptEnable), ("DIRECTION", direction)]

/-- No flags. -/
def empty : Flags := ⟨0⟩

/-- The flags of either set. -/
def union (f g : Flags) : Flags := ⟨f.bits ||| g.bits⟩

/-- The flags of both sets. -/
def inter (f g : Flags) : Flags := ⟨f.bits &&& g.bits⟩

/-- The flags of the first set that are not in the second. -/
def diff (f g : Flags) : Flags := ⟨f.bits &&& ~~~g.bits⟩

/-- The flags of exactly one of the sets. -/
def symmDiff (f g : Flags) : Flags := ⟨f.bits ^^^ g.bits⟩

/-- All known flags. -/
def all : Flags := (known.map Prod.snd).foldl union empty

/-- Drops the unknown bits. -/
def truncate (f : Flags) : Flags := f.inter all

/-- All known flags that are not in the set. -/
def complement (f : Flags) : Flags := truncate ⟨~~~f.bits⟩

/-- Whether every flag of the second set is in the first. -/
def contains (f g : Flags) : Bool := f.inter g == g

/-- String instructions walk towards higher addresses.  Compiled code keeps the flags like
this wherever a block of machine instructions begins, so the block may count on it. -/
def Forward (f : Flags) : Prop := f.contains direction = false

instance (f : Flags) : Decidable f.Forward :=
  inferInstanceAs (Decidable (_ = _))

/-- Whether the sets have a flag in common. -/
def intersects (f g : Flags) : Bool := f.inter g != empty

/-- Whether there is no flag at all, known or unknown. -/
def isEmpty (f : Flags) : Bool := f == empty

/-- Whether every known flag is set; unknown bits do not matter. -/
def isAll (f : Flags) : Bool := f.contains all

/-- The set with exactly these bits, if all of them are known. -/
def ofKnownBits? (bits : UInt64) : Option Flags :=
  if truncate ⟨bits⟩ = ⟨bits⟩ then some ⟨bits⟩ else none

/-- The known flag of that name. -/
def ofName? (name : String) : Option Flags :=
  known.lookup name

/-- The names of the known flags in the set. -/
def names (f : Flags) : List String :=
  (known.filter fun flag => f.contains flag.2).map Prod.fst

/-- The set as a value: the names of its known flags, then its unknown bits as one
number unless there are none. -/
def display (f : Flags) : String :=
  let rest := f.diff all
  let parts := if rest.isEmpty then f.names else f.names ++ [Numeral.hexadecimal rest.bits.toNat]
  "Rflags(" ++ (if parts.isEmpty then "0x0" else " | ".intercalate parts) ++ ")"

/-! ### Editing a set -/

/-- A way to change or question a set of flags. -/
inductive Edit where
  | truncate (bits : Flags)
  | retain (bits : Flags)
  | ofKnownBits (bits : UInt64)
  | ofName (name : String)
  | empty
  | all
  | union (other : Flags)
  | inter (other : Flags)
  | diff (other : Flags)
  | symmDiff (other : Flags)
  | complement
  | contains (other : Flags)
  | intersects (other : Flags)
  | equals (other : Flags)
  deriving DecidableEq

/-- The set that is found becomes the current one; otherwise nothing changes. -/
def adopt (f : Flags) : Option Flags → Option Bool × Flags
  | some g => (some true, g)
  | none => (some false, f)

/-- The answer to an edit, if it gives one, and the set afterwards. -/
def edit (f : Flags) : Edit → Option Bool × Flags
  | .truncate g => (none, g.truncate)
  | .retain g => (none, g)
  | .ofKnownBits bits => f.adopt (ofKnownBits? bits)
  | .ofName name => f.adopt (ofName? name)
  | .empty => (none, empty)
  | .all => (none, all)
  | .union g => (none, f.union g)
  | .inter g => (none, f.inter g)
  | .diff g => (none, f.diff g)
  | .symmDiff g => (none, f.symmDiff g)
  | .complement => (none, f.complement)
  | .contains g => (some (f.contains g), f)
  | .intersects g => (some (f.intersects g), f)
  | .equals g => (some (f == g), f)

/-- The answers of some edits one after another, each with the set it left. -/
def edits (f : Flags) : List Edit → List (Option Bool × Flags)
  | [] => []
  | e :: es => f.edit e :: (f.edit e).2.edits es

end Flags

end Handoff
