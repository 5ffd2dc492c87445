/-
The string store, iteration by iteration.

The native processor of the bare machine zeroes with an instruction that is a loop, and a
host process with one write.  With the direction flag clear the loop keeps an invariant: so
far it has filled the addresses behind it, and the rest of the memory and the flag word are
as they were.  The address register wraps where the storage ends with the last address
of all, but only in the iteration that uses the count up, so it is never stored to.

That the loop ends is a matter of the count alone, which every iteration lowers.

Zeroing with the store is defined without the loop and without the flag, as bytes stored at
ascending addresses.  `zeroByStringStore_eq` says what that stands for: on any machine and for
any storage, held by the memory or not, it is where the loop stops if it is entered as its
contract has it.
-/
import Handoff.Proofs.Flags
import Handoff.Proofs.Memory
import Handoff.Processor
import Handoff.StringStore

namespace Handoff

namespace StringStore

variable {s t u : StringStore} {k n : Nat}

/-! ### The loop -/

theorem step?_eq_some (h : s.step? = some t) :
    s.count ≠ 0 ∧ t = { s with
      memory := s.memory.store s.address s.value, address := s.next, count := s.count - 1 } := by
  unfold step? at h
  split at h
  · rename_i hgoes
    cases h
    exact ⟨hgoes.1, rfl⟩
  · cases h

/-- The last of some iterations can be looked at on its own. -/
theorem iterate?_succ (n : Nat) (s : StringStore) :
    iterate? (n + 1) s = (iterate? n s).bind step? := by
  induction n generalizing s with
  | zero => exact Option.bind_fun_some s.step?
  | succ n ih =>
    rw [iterate?, iterate?, Option.bind_assoc]
    exact congrArg s.step?.bind (funext ih)

/-- Every iteration lowers the count by one. -/
theorem count_iterate? (h : iterate? n s = some t) : t.count.toNat + n = s.count.toNat := by
  induction n generalizing t with
  | zero =>
    cases h
    rfl
  | succ n ih =>
    rw [iterate?_succ, Option.bind_eq_some_iff] at h
    obtain ⟨u, hu, hstep⟩ := h
    obtain ⟨hcount, rfl⟩ := step?_eq_some hstep
    have hone : (1 : UInt64) ≤ u.count := by
      rw [UInt64.le_iff_toNat_le, UInt64.toNat_one, Nat.one_le_iff_ne_zero]
      exact fun hzero => hcount (UInt64.toNat_inj.1 hzero)
    have hpred : (u.count - 1).toNat + 1 = u.count.toNat := by
      rw [UInt64.toNat_sub_of_le _ _ hone, UInt64.toNat_one]
      exact Nat.sub_add_cancel (UInt64.le_iff_toNat_le.1 hone)
    have hrest := ih hu
    show (u.count - 1).toNat + (n + 1) = s.count.toNat
    omega

/-- So there are no more iterations than the count says. -/
theorem iterate?_eq_none (h : s.count.toNat < n) : iterate? n s = none := by
  cases hiterate : iterate? n s with
  | none => rfl
  | some t =>
    have hcount := count_iterate? hiterate
    omega

theorem count_ne_zero (h : 0 < s.count.toNat) : s.count ≠ 0 := by
  intro hzero
  have hnone : s.count.toNat = 0 := congrArg UInt64.toNat hzero
  omega

theorem next_of_forward (h : s.flags.Forward) : s.next = s.address + 1 := by
  have hclear : s.flags.contains .direction = false := h
  rw [next, hclear]
  rfl

/-! ### What it keeps -/

/-- The store goes up, to addresses that can be written. -/
structure Ascends (s : StringStore) : Prop where
  forward : s.flags.Forward
  word : s.address.toNat + s.count.toNat ≤ UInt64.size
  holds : s.memory.Holds s.address s.count.toNat

/-- After `k` iterations so many bytes are filled, and nothing else has changed. -/
structure Filled (s : StringStore) (k : Nat) (t : StringStore) : Prop where
  value : t.value = s.value
  address : t.address.toNat = (s.address.toNat + k) % UInt64.size
  flags : t.flags = s.flags
  memory : t.memory = s.memory.fill s.address k s.value

theorem filled_zero (s : StringStore) : Filled s 0 s where
  value := rfl
  address := (Nat.mod_eq_of_lt s.address.toNat_lt_size).symm
  flags := rfl
  memory := (s.memory.fill_zero ..).symm

/-- One more iteration fills the byte behind. -/
theorem Filled.step (hs : Ascends s) (h : Filled s k t) (hcount : t.count.toNat + k = s.count.toNat)
    (hk : k < s.count.toNat) : ∃ u, t.step? = some u ∧ Filled s (k + 1) u := by
  have hlow := hs.holds.1
  have hhigh := hs.holds.2
  have hword := hs.word
  have haddress : t.address.toNat = s.address.toNat + k := by
    rw [h.address, Nat.mod_eq_of_lt (by omega)]
  have hnonzero : t.count ≠ 0 := count_ne_zero (by omega)
  have hone : t.memory.Holds t.address 1 := by
    rw [h.memory, Memory.holds_fill, Memory.Holds]
    omega
  have hforward : t.next = t.address + 1 := next_of_forward (h.flags ▸ hs.forward)
  refine ⟨_, if_pos ⟨hnonzero, hone⟩, h.value, ?_, h.flags, ?_⟩
  · show t.next.toNat = _
    rw [hforward, UInt64.toNat_add, UInt64.toNat_one, haddress]
    rfl
  · show t.memory.store t.address t.value = _
    rw [Memory.store_eq_fill hone, h.memory, h.value]
    exact Memory.fill_append ⟨hlow, by omega⟩ haddress s.value

/-- The loop goes on for as long as the count says. -/
theorem filled_iterate? (hs : Ascends s) (hk : k ≤ s.count.toNat) :
    ∃ t, iterate? k s = some t ∧ Filled s k t := by
  induction k with
  | zero => exact ⟨s, rfl, filled_zero s⟩
  | succ k ih =>
    obtain ⟨t, hiterate, hfilled⟩ := ih (Nat.le_of_succ_le hk)
    obtain ⟨u, hstep, hnext⟩ := hfilled.step hs (count_iterate? hiterate) hk
    refine ⟨u, ?_, hnext⟩
    rw [iterate?_succ, hiterate]
    exact hstep

/-- The loop comes to its end in `t`: the count is used up in as many iterations, and there is
no further one. -/
structure EndsIn (s t : StringStore) : Prop where
  iterates : iterate? s.count.toNat s = some t
  finished : t.count = 0
  ends : ∀ n, s.count.toNat < n → iterate? n s = none

theorem endsIn_of_iterate? (h : iterate? s.count.toNat s = some t) : EndsIn s t where
  iterates := h
  finished := by
    have hcount := count_iterate? h
    have hzero : t.count.toNat = 0 := by omega
    exact UInt64.toNat_inj.1 hzero
  ends _ hn := iterate?_eq_none hn

/-! ### Where it stops -/

/-- The loop stops in `t`: it comes there, and there is no further iteration. -/
structure StopsIn (s t : StringStore) : Prop where
  iterates : ∃ n, iterate? n s = some t
  stops : t.step? = none

/-- A loop stops where it stops after its first iteration. -/
theorem StopsIn.of_step (hstep : s.step? = some t) (h : t.StopsIn u) : s.StopsIn u := by
  obtain ⟨n, hiterate⟩ := h.iterates
  refine ⟨⟨n + 1, ?_⟩, h.stops⟩
  rw [iterate?, hstep]
  exact hiterate

/-- **Upwards the loop stops where storing byte by byte does**, with the flags as they were. -/
theorem stopsIn_storeString (hforward : s.flags.Forward) :
    ∃ t, s.StopsIn t ∧ t.flags = s.flags ∧
      t.memory = s.memory.storeString s.address s.value s.count.toNat := by
  induction hcount : s.count.toNat generalizing s with
  | zero =>
    have hzero : s.count = 0 := UInt64.toNat_inj.1 hcount
    have hstops : s.step? = none := if_neg fun hgoes => hgoes.1 hzero
    exact ⟨s, ⟨⟨0, rfl⟩, hstops⟩, rfl, rfl⟩
  | succ n ih =>
    by_cases hone : s.memory.Holds s.address 1
    · have hnonzero : s.count ≠ 0 := count_ne_zero (by omega)
      obtain ⟨u, hstep⟩ : ∃ u, s.step? = some u := ⟨_, if_pos ⟨hnonzero, hone⟩⟩
      have hlower : u.count.toNat + 1 = s.count.toNat := by
        refine count_iterate? ?_
        rw [iterate?, hstep]
        rfl
      obtain ⟨-, hu⟩ := step?_eq_some hstep
      have hkept : u.flags = s.flags := by rw [hu]
      obtain ⟨t, hstopped, hflags, hmemory⟩ :=
        ih (s := u) (hkept ▸ hforward) (Nat.succ.inj (hlower.trans hcount))
      refine ⟨t, hstopped.of_step hstep, hflags.trans hkept, ?_⟩
      rw [hmemory, hu, next_of_forward hforward, Memory.storeString, if_pos hone]
    · have hstops : s.step? = none := if_neg fun hgoes => hone hgoes.2
      refine ⟨s, ⟨⟨0, rfl⟩, hstops⟩, rfl, ?_⟩
      rw [Memory.storeString, if_neg hone]

end StringStore

/-! ### Zeroing by it -/

namespace Machine

/-- Zeroing with the string store is its loop, entered with the direction flag clear, whatever
the flags of the machine are. -/
theorem zeroByStringStore_eq (m : Machine) (start length : UInt64) :
    ∃ t, (m.clearDirection.stringStore start length).StopsIn t ∧
      m.zeroByStringStore start length = { m with memory := t.memory } := by
  have hforward : (m.clearDirection.stringStore start length).flags.Forward :=
    m.flags.direction_diff
  obtain ⟨t, hstops, -, hmemory⟩ := StringStore.stopsIn_storeString hforward
  refine ⟨t, hstops, ?_⟩
  rw [hmemory]
  rfl

/-- On a machine that keeps the contract it is the loop on that machine. -/
theorem zeroByStringStore_of_forward {m : Machine} (h : m.flags.Forward) (start length : UInt64) :
    ∃ t, (m.stringStore start length).StopsIn t ∧
      m.zeroByStringStore start length = { m with memory := t.memory } := by
  obtain ⟨t, hstops, -, hmemory⟩ :=
    StringStore.stopsIn_storeString (s := m.stringStore start length) h
  refine ⟨t, hstops, ?_⟩
  rw [hmemory]
  rfl

/-- The string store of zeros leaves what the processors leave, on the bare machine and in a
host process: all of it is in the memory. -/
structure Zeroes (m : Machine) (start length : UInt64) (t : StringStore) : Prop where
  endsIn : (m.stringStore start length).EndsIn t
  flags : t.flags = m.flags
  bytes : ∀ a, t.memory.byte? a =
    if start.toNat ≤ a.toNat ∧ a.toNat < start.toNat + length.toNat then some 0
    else m.memory.byte? a
  metal : ∀ b : Build, b.target = .metal →
    (b.platform .native).zeroBytes start length m = { m with memory := t.memory }
  host : ∀ b : Build, b.target = .host →
    (b.platform .native).zeroBytes start length m = { m with memory := t.memory }

/-- **The string store ends and leaves what one write leaves**, wherever the memory holds all the
bytes and the direction flag is clear. -/
theorem stringStore_ends {m : Machine} {start length : UInt64}
    (hforward : m.flags.Forward)
    (hword : start.toNat + length.toNat ≤ UInt64.size) (hholds : m.memory.Holds start length.toNat) :
    ∃ t, m.Zeroes start length t := by
  obtain ⟨t, hiterate, hfilled⟩ :=
    StringStore.filled_iterate? (s := m.stringStore start length) ⟨hforward, hword, hholds⟩
      (Nat.le_refl _)
  have hmemory : t.memory = m.memory.fill start length.toNat 0 := hfilled.memory
  refine ⟨t, StringStore.endsIn_of_iterate? hiterate, hfilled.flags, fun a => ?_,
    fun b hmetal => ?_, fun b hhost => ?_⟩
  · rw [hmemory, Memory.byte?_fill hholds]
  · have hstore := Memory.storeString_eq_fill hholds hword 0
    rw [Build.platform, hmetal, hmemory, ← hstore]
    rfl
  · rw [Build.platform, hhost, hmemory]
    rfl

/-- The last two bytes there are, and none at the lowest address.  With the direction flag set
the loop would store below the first of the two. -/
theorem stringStore_ends_at_last :
    let m : Machine := { flags := ⟨0xfffffffffffffbff⟩, console := .idle true
                         memory := ⟨0xfffffffffffffffd, #[7, 8, 9]⟩ }
    m.flags.Forward ∧
      m.memory.Holds 0xfffffffffffffffe 2 ∧ (∃ t, m.Zeroes 0xfffffffffffffffe 2 t) ∧
      ((m.stringStore 0xfffffffffffffffe 2).iterate? 2).map StringStore.memory =
        some ⟨0xfffffffffffffffd, #[7, 0, 0]⟩ ∧
      (∃ t, ({ m with memory := ⟨0, #[5]⟩ } : Machine).Zeroes 0 0 t) ∧
      ((({ m with flags := .direction } : Machine).stringStore 0xfffffffffffffffe 2).iterate? 2).map
        StringStore.memory = some ⟨0xfffffffffffffffd, #[0, 0, 9]⟩ := by
  intro m
  have hforward : m.flags.Forward := by decide
  have hholds : m.memory.Holds 0xfffffffffffffffe 2 := by decide
  have hlast : ∃ t, m.Zeroes 0xfffffffffffffffe 2 t :=
    stringStore_ends hforward (by decide) hholds
  have hnone : ∃ t, ({ m with memory := ⟨0, #[5]⟩ } : Machine).Zeroes 0 0 t :=
    stringStore_ends hforward (by decide) (by decide)
  exact ⟨hforward, hholds, hlast, by decide, hnone, by decide⟩

end Machine

end Handoff
