/-
The memory that boot code can write: one run of bytes at a base address.

Everything is stated on addresses.  A write of several bytes either lies wholly
inside the memory or does nothing; the byte-by-byte store loop stops at the first
address outside.
-/
namespace Handoff

/-- Consecutive bytes, the first of them at `base`. -/
structure Memory where
  base : UInt64
  bytes : Array UInt8
  deriving DecidableEq

namespace Memory

/-- No memory at all. -/
def absent : Memory := ⟨0, #[]⟩

/-- The byte at an address. -/
def byte? (m : Memory) (a : UInt64) : Option UInt8 :=
  if m.base ≤ a then m.bytes[a.toNat - m.base.toNat]? else none

/-- Whether `count` bytes from `start` on lie in the memory, without wrapping. -/
def Holds (m : Memory) (start : UInt64) (count : Nat) : Prop :=
  m.base.toNat ≤ start.toNat ∧ start.toNat + count ≤ m.base.toNat + m.bytes.size

instance (m : Memory) (start : UInt64) (count : Nat) : Decidable (m.Holds start count) :=
  inferInstanceAs (Decidable (_ ∧ _))

/-- Writes `count` equal bytes from `start` on, if the memory holds them all. -/
def fill (m : Memory) (start : UInt64) (count : Nat) (byte : UInt8) : Memory :=
  if m.Holds start count then
    let first := start.toNat - m.base.toNat
    { m with
      bytes := m.bytes.mapIdx fun i old =>
        if first ≤ i ∧ i < first + count then byte else old }
  else m

/-- Stores one byte; nothing happens at an address outside. -/
def store (m : Memory) (a : UInt64) (byte : UInt8) : Memory :=
  if h : m.base ≤ a ∧ a.toNat - m.base.toNat < m.bytes.size then
    { m with bytes := m.bytes.set (a.toNat - m.base.toNat) byte h.2 }
  else m

/-- The string store: one byte at a time at ascending addresses, `count` times, but not
beyond the first address outside. -/
def storeString (m : Memory) (a : UInt64) (byte : UInt8) : (count : Nat) → Memory
  | 0 => m
  | count + 1 => if m.Holds a 1 then (m.store a byte).storeString (a + 1) byte count else m

/-! ### What a fill leaves -/

/-- Filling changes the bytes it covers and no others. -/
theorem byte?_fill {m : Memory} {start : UInt64} {count : Nat} (h : m.Holds start count)
    (byte : UInt8) (a : UInt64) :
    (m.fill start count byte).byte? a =
      if start.toNat ≤ a.toNat ∧ a.toNat < start.toNat + count then some byte else m.byte? a := by
  have hholds := h
  obtain ⟨hlow, hhigh⟩ := h
  simp only [fill, hholds, ↓reduceIte, byte?, Array.getElem?_mapIdx]
  by_cases ha : m.base ≤ a
  · have hle := UInt64.le_iff_toNat_le.1 ha
    have hiff : (start.toNat - m.base.toNat ≤ a.toNat - m.base.toNat ∧
        a.toNat - m.base.toNat < start.toNat - m.base.toNat + count) ↔
        (start.toNat ≤ a.toNat ∧ a.toNat < start.toNat + count) := by omega
    simp only [ha, ↓reduceIte, hiff]
    by_cases hin : start.toNat ≤ a.toNat ∧ a.toNat < start.toNat + count
    · have hsize : a.toNat - m.base.toNat < m.bytes.size := by omega
      simp [hin, hsize]
    · simp [hin]
  · have hlt := UInt64.lt_iff_toNat_lt.1 (UInt64.not_le.1 ha)
    have hout : ¬(start.toNat ≤ a.toNat ∧ a.toNat < start.toNat + count) := by omega
    simp [ha, hout]

/-! ### Counting

The kernel is shown how many bytes are not zero when it is entered.
-/

/-- How many bytes differ from zero. -/
def nonzero (m : Memory) : Nat :=
  m.bytes.countP (· != 0)

/-! ### Runs

A run is a byte and how often it is repeated.
-/

/-- The memory whose bytes are written as runs. -/
def ofRuns (base : UInt64) (runs : List (UInt8 × Nat)) : Memory :=
  ⟨base, runs.foldl (fun bytes run => bytes ++ Array.replicate run.2 run.1) #[]⟩

/-- Puts one more byte in front of some runs, lengthening the first run if it is
one of the same byte. -/
def pushRun (byte : UInt8) : List (UInt8 × Nat) → List (UInt8 × Nat)
  | (first, count) :: runs =>
    if byte = first then (first, count + 1) :: runs else (byte, 1) :: (first, count) :: runs
  | [] => [(byte, 1)]

/-- The bytes as runs, as few as possible. -/
def runs (m : Memory) : List (UInt8 × Nat) :=
  m.bytes.foldr pushRun []

end Memory

end Handoff
