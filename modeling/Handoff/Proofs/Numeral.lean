/-
Numerals read back.

A number is its last digit behind the numeral of the rest, so reading from the left comes to
the number by induction on it, in any base that has digits.  Zero is no exception: its numeral
is one digit and not none.  A word that is shown by one of these numerals is therefore known
from it, and two words that are shown alike are the same.
-/
import Handoff.Text.Numeral

namespace Handoff

namespace Numeral

/-- A digit of base sixteen or less stands for its value. -/
theorem digit?_digitChar {d : Nat} (h : d < 16) : digit? d.digitChar = some d := by
  have hall : ∀ d : Fin 16, digit? d.val.digitChar = some d.val := by decide
  exact hall ⟨d, h⟩

section Base

variable {base : Nat} (htwo : 1 < base) (hdigits : base ≤ 16)
include htwo

/-- A numeral has nothing but digits. -/
theorem mem_toDigits {n : Nat} {c : Char} (h : c ∈ Nat.toDigits base n) :
    ∃ d : Nat, c = d.digitChar := by
  induction n using Nat.strongRecOn with
  | ind n ih =>
    rw [Nat.toDigits_eq_if htwo] at h
    split at h
    · exact ⟨n, List.mem_singleton.1 h⟩
    · rename_i hbase
      rcases List.mem_append.1 h with hrest | hlast
      · exact ih (n / base) (Nat.div_lt_self (by omega) htwo) hrest
      · exact ⟨n % base, List.mem_singleton.1 hlast⟩

include hdigits

/-- Reading the digits of a number comes to the number. -/
theorem foldlM_toDigits (n : Nat) : (Nat.toDigits base n).foldlM (push? base) 0 = some n := by
  have hpush : ∀ m d, d < base → push? base m d.digitChar = some (base * m + d) := by
    intro m d hd
    simp only [push?, digit?_digitChar (Nat.lt_of_lt_of_le hd hdigits), hd, ↓reduceIte]
  induction n using Nat.strongRecOn with
  | ind n ih =>
    rw [Nat.toDigits_eq_if htwo]
    split
    · rename_i hlt
      rw [List.foldlM_cons, hpush 0 n hlt, Nat.mul_zero, Nat.zero_add]
      rfl
    · rename_i hge
      have hrest := ih (n / base) (Nat.div_lt_self (by omega) htwo)
      have hlast := hpush (n / base) (n % base) (Nat.mod_lt n (by omega))
      rw [List.foldlM_append, hrest]
      show (push? base (n / base) (n % base).digitChar).bind _ = _
      rw [hlast, Nat.div_add_mod]
      rfl

theorem read?_toDigits (n : Nat) : read? base (Nat.toDigits base n) = some n := by
  have hread := foldlM_toDigits htwo hdigits n
  cases hcs : Nat.toDigits base n with
  | nil => exact absurd hcs Nat.toDigits_ne_nil
  | cons c cs =>
    rw [hcs] at hread
    exact hread

end Base

theorem toList_decimal (n : Nat) : (decimal n).toList = Nat.toDigits 10 n :=
  String.toList_ofList

theorem toList_hexadecimal (n : Nat) :
    (hexadecimal n).toList = '0' :: 'x' :: Nat.toDigits 16 n := by
  simp [hexadecimal]

/-- A decimal numeral reads as its number. -/
theorem readDecimal?_decimal (n : Nat) : readDecimal? (decimal n) = some n := by
  rw [readDecimal?, toList_decimal]
  exact read?_toDigits (by decide) (by decide) n

/-- So does a hexadecimal one. -/
theorem readHexadecimal?_hexadecimal (n : Nat) : readHexadecimal? (hexadecimal n) = some n := by
  rw [readHexadecimal?, toList_hexadecimal]
  exact read?_toDigits (by decide) (by decide) n

/-! ### Numerals in a text -/

/-- What is no digit is not in a decimal numeral. -/
theorem not_mem_decimal {c : Char} (hc : ∀ d : Nat, d.digitChar ≠ c) (n : Nat) :
    c ∉ (decimal n).toList := by
  rw [toList_decimal]
  intro hmem
  obtain ⟨d, hd⟩ := mem_toDigits (by decide) hmem
  exact hc d hd.symm

/-- Nor in a hexadecimal one, but for the mark of its base. -/
theorem not_mem_hexadecimal {c : Char} (hc : ∀ d : Nat, d.digitChar ≠ c) (hx : c ≠ 'x') (n : Nat) :
    c ∉ (hexadecimal n).toList := by
  rw [toList_hexadecimal]
  intro hmem
  rcases List.mem_cons.1 hmem with rfl | hmem
  · exact hc 0 rfl
  rcases List.mem_cons.1 hmem with rfl | hmem
  · exact hx rfl
  · obtain ⟨d, hd⟩ := mem_toDigits (by decide) hmem
    exact hc d hd.symm

/-- A decimal numeral is not taken for a hexadecimal one. -/
theorem readHexadecimal?_decimal (n : Nat) : readHexadecimal? (decimal n) = none := by
  have hx : 'x' ∉ (decimal n).toList := not_mem_decimal (fun d => Nat.digitChar_ne 'x' (by decide)) n
  unfold readHexadecimal?
  split
  · rename_i digits hchars
    rw [hchars] at hx
    simp at hx
  · rfl

/-- Nor the other way round. -/
theorem readDecimal?_hexadecimal (n : Nat) : readDecimal? (hexadecimal n) = none := by
  rw [readDecimal?, toList_hexadecimal]
  rfl

end Numeral

end Handoff
