/-
The string store as the processor executes it: a loop over three registers.

An iteration stores one byte, moves the address up, or down if the direction flag is set,
and lowers the count.  The loop ends when the count is used up.  Where an address cannot be
written there is no further iteration either, but then some of the count is left.

The flag is read here and nowhere else.  Whoever has the store executed enters it with
`Flags.Forward`.
-/
import Handoff.Machine

namespace Handoff

/-- A string store under way: its registers, and what of the machine it works on. -/
structure StringStore where
  /-- The byte to store. -/
  value : UInt8
  address : UInt64
  /-- How many bytes are still to be stored. -/
  count : UInt64
  flags : Flags
  memory : Memory
  deriving DecidableEq

namespace StringStore

/-- The address that follows. -/
def next (s : StringStore) : UInt64 :=
  if s.flags.contains .direction then s.address - 1 else s.address + 1

/-- One iteration, unless the count is used up or the address cannot be written. -/
def step? (s : StringStore) : Option StringStore :=
  if s.count ≠ 0 ∧ s.memory.Holds s.address 1 then
    some { s with
      memory := s.memory.store s.address s.value
      address := s.next
      count := s.count - 1 }
  else none

/-- Exactly so many iterations, if the loop goes on for so long. -/
def iterate? : Nat → StringStore → Option StringStore
  | 0, s => some s
  | n + 1, s => s.step?.bind (iterate? n)

end StringStore

/-- The string store of zeros from an address on, as it begins. -/
def Machine.stringStore (start length : UInt64) (m : Machine) : StringStore :=
  { value := 0, address := start, count := length, flags := m.flags, memory := m.memory }

end Handoff
