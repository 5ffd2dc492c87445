/-
The string store writes what one fill writes.

`storeString` stores byte by byte at ascending addresses, and `fill` writes all bytes
at once.  Both are read here through the offsets of the memory: a fill is a change
of the offsets it covers, a single store is a fill of one byte, and a fill with
another right behind it is one fill.  Induction over the count then joins the two.
The only thing that could part them is an address that wraps before the count is
used up, and a store that stays inside the word cannot wrap.
-/
import Handoff.Memory

namespace Handoff

namespace Memory

/-! ### A fill, offset by offset -/

@[simp] theorem base_fill (m : Memory) (start : UInt64) (count : Nat) (byte : UInt8) :
    (m.fill start count byte).base = m.base := by
  unfold fill
  split <;> rfl

@[simp] theorem size_fill (m : Memory) (start : UInt64) (count : Nat) (byte : UInt8) :
    (m.fill start count byte).bytes.size = m.bytes.size := by
  unfold fill
  split
  · exact Array.size_mapIdx
  · rfl

/-- A fill moves nothing: it holds what the memory held. -/
@[simp] theorem holds_fill (m : Memory) (start a : UInt64) (count n : Nat) (byte : UInt8) :
    (m.fill start count byte).Holds a n ↔ m.Holds a n := by
  simp [Holds]

theorem getElem?_fill {m : Memory} {start : UInt64} {count : Nat} (h : m.Holds start count)
    (byte : UInt8) (i : Nat) :
    (m.fill start count byte).bytes[i]? =
      if start.toNat ≤ m.base.toNat + i ∧ m.base.toNat + i < start.toNat + count then
        m.bytes[i]?.map fun _ => byte
      else m.bytes[i]? := by
  have hlow := h.1
  have hiff : (start.toNat - m.base.toNat ≤ i ∧ i < start.toNat - m.base.toNat + count) ↔
      (start.toNat ≤ m.base.toNat + i ∧ m.base.toNat + i < start.toNat + count) := by omega
  rw [fill, if_pos h]
  simp only [Array.getElem?_mapIdx, hiff]
  split <;> simp

/-- Memories with the same base and the same byte at every offset are the same. -/
theorem ext_getElem? {m n : Memory} (hbase : m.base = n.base)
    (hbytes : ∀ i : Nat, m.bytes[i]? = n.bytes[i]?) : m = n := by
  cases m
  cases n
  simp only [mk.injEq]
  exact ⟨hbase, Array.ext_getElem? hbytes⟩

theorem fill_zero (m : Memory) (start : UInt64) (byte : UInt8) : m.fill start 0 byte = m := by
  by_cases h : m.Holds start 0
  · refine ext_getElem? (m.base_fill ..) fun i => ?_
    rw [getElem?_fill h, if_neg (by omega)]
  · rw [fill, if_neg h]

/-- What a memory held where it is filled does not matter. -/
theorem fill_congr {m n : Memory} {start : UInt64} {count : Nat} (h : m.Holds start count)
    (hbase : m.base = n.base) (hsize : m.bytes.size = n.bytes.size)
    (hbytes : ∀ i : Nat, ¬(start.toNat ≤ m.base.toNat + i ∧ m.base.toNat + i < start.toNat + count) →
      m.bytes[i]? = n.bytes[i]?) (byte : UInt8) :
    m.fill start count byte = n.fill start count byte := by
  have hn : n.Holds start count := by
    rw [Holds, ← hbase, ← hsize]
    exact h
  refine ext_getElem? (by rw [base_fill, base_fill, hbase]) fun i => ?_
  rw [getElem?_fill h, getElem?_fill hn, ← hbase]
  split
  · by_cases hi : i < m.bytes.size
    · rw [Array.getElem?_eq_getElem hi, Array.getElem?_eq_getElem (hsize ▸ hi)]
      rfl
    · rw [Array.getElem?_eq_none (Nat.le_of_not_lt hi),
        Array.getElem?_eq_none (hsize ▸ Nat.le_of_not_lt hi)]
  · exact hbytes i ‹_›

/-! ### The string store -/

/-- A single store moves nothing. -/
theorem frame_store (m : Memory) (a : UInt64) (byte : UInt8) :
    (m.store a byte).base = m.base ∧ (m.store a byte).bytes.size = m.bytes.size := by
  unfold store
  split
  · rename_i hin
    exact ⟨rfl, Array.size_set hin.2⟩
  · exact ⟨rfl, rfl⟩

/-- Neither do many, wherever they stop. -/
theorem frame_storeString (m : Memory) (a : UInt64) (byte : UInt8) (count : Nat) :
    (m.storeString a byte count).base = m.base ∧
      (m.storeString a byte count).bytes.size = m.bytes.size := by
  induction count generalizing m a with
  | zero => exact ⟨rfl, rfl⟩
  | succ count ih =>
    obtain ⟨hbase, hsize⟩ := m.frame_store a byte
    obtain ⟨hbase', hsize'⟩ := ih (m.store a byte) (a + 1)
    rw [storeString]
    split
    · exact ⟨hbase'.trans hbase, hsize'.trans hsize⟩
    · exact ⟨rfl, rfl⟩

/-- One store is a fill of one byte. -/
theorem store_eq_fill {m : Memory} {a : UInt64} (h : m.Holds a 1) (byte : UInt8) :
    m.store a byte = m.fill a 1 byte := by
  obtain ⟨hlow, hhigh⟩ := h
  have hin : m.base ≤ a ∧ a.toNat - m.base.toNat < m.bytes.size :=
    ⟨UInt64.le_iff_toNat_le.2 hlow, by omega⟩
  refine ext_getElem? (by rw [store, dif_pos hin, base_fill]) fun i => ?_
  rw [getElem?_fill ⟨hlow, hhigh⟩, store, dif_pos hin]
  simp only [Array.getElem?_set]
  by_cases hi : a.toNat - m.base.toNat = i
  · rw [if_pos hi, if_pos (by omega), Array.getElem?_eq_getElem (by omega)]
    rfl
  · rw [if_neg hi, if_neg (by omega)]

/-- A fill and a fill of what comes right behind it are one fill. -/
theorem fill_append {m : Memory} {a a' : UInt64} {n k : Nat} (h : m.Holds a (n + k))
    (hnext : a'.toNat = a.toNat + n) (byte : UInt8) :
    (m.fill a n byte).fill a' k byte = m.fill a (n + k) byte := by
  obtain ⟨hlow, hhigh⟩ := h
  have hfirst : m.Holds a n := ⟨hlow, by omega⟩
  have hrest : m.Holds a' k := ⟨by omega, by omega⟩
  refine ext_getElem? (by simp) fun i => ?_
  rw [getElem?_fill ((holds_fill ..).2 hrest), getElem?_fill hfirst, getElem?_fill ⟨hlow, hhigh⟩,
    base_fill, hnext]
  cases hbyte : m.bytes[i]? with
  | none => simp
  | some old =>
    simp only [Option.map_some]
    split <;> split <;> first | rfl | omega | (split <;> first | rfl | omega)

/-- **The string store is the fill**, wherever the memory holds all it writes. -/
theorem storeString_eq_fill {m : Memory} {a : UInt64} {count : Nat} (h : m.Holds a count)
    (hword : a.toNat + count ≤ UInt64.size) (byte : UInt8) :
    m.storeString a byte count = m.fill a count byte := by
  induction count generalizing m a with
  | zero => rw [fill_zero, storeString]
  | succ count ih =>
    have hone : m.Holds a 1 := ⟨h.1, by have := h.2; omega⟩
    rw [storeString, if_pos hone, store_eq_fill hone]
    cases count with
    | zero => rw [storeString]
    | succ count =>
      -- more is to come, so this was not the last address of the word
      have hsize : UInt64.size = 2 ^ 64 := rfl
      have hnext : (a + 1).toNat = a.toNat + 1 := by
        rw [UInt64.toNat_add, UInt64.toNat_one, Nat.mod_eq_of_lt (by omega)]
      have hrest : (m.fill a 1 byte).Holds (a + 1) (count + 1) := by
        have := h.1
        have := h.2
        exact (holds_fill ..).2 ⟨by omega, by omega⟩
      have hall : m.Holds a (1 + (count + 1)) := by rwa [Nat.add_comm]
      rw [ih hrest (by omega), fill_append hall hnext, Nat.add_comm]

end Memory

end Handoff
