/-
Numerals as boot reports write them: decimal counts, prefixed hexadecimal words,
and the padded form of an address.

The digits themselves come from `Nat.toDigits`, which never leads with a zero
except for zero itself.  The readers go the other way, digit by digit, and refuse
any character that is no digit of their base, so a numeral cut out of a report can
be turned back into the number that was meant.  Decimal numerals can also be found in a
text, whatever stands around them.
-/
import Handoff.Text.Split

namespace Handoff

namespace Numeral

/-- Decimal digits without leading zeros. -/
def decimal (n : Nat) : String :=
  String.ofList (Nat.toDigits 10 n)

/-- `0x` followed by lower-case hexadecimal digits without leading zeros. -/
def hexadecimal (n : Nat) : String :=
  "0x" ++ String.ofList (Nat.toDigits 16 n)

/-- How many hexadecimal digits a 64-bit word fills. -/
def addressDigits : Nat := 16

/-- `0x` followed by as many digits as an address has, leading zeros included. -/
def address (n : Nat) : String :=
  "0x" ++ String.ofList ((Nat.toDigits 16 n).leftpad addressDigits '0')

/-! ### Reading -/

/-- The value of a decimal or lower-case hexadecimal digit. -/
def digit? (c : Char) : Option Nat :=
  if c.isDigit then some (c.toNat - '0'.toNat)
  else if 'a' ≤ c ∧ c ≤ 'f' then some (c.toNat - 'a'.toNat + 10)
  else none

/-- Continues a number by one more digit of the base. -/
def push? (base : Nat) (n : Nat) (c : Char) : Option Nat :=
  match digit? c with
  | some d => if d < base then some (base * n + d) else none
  | none => none

/-- The number that a non-empty run of digits stands for. -/
def read? (base : Nat) : List Char → Option Nat
  | [] => none
  | c :: cs => (c :: cs).foldlM (push? base) 0

/-- Reads what `decimal` writes. -/
def readDecimal? (s : String) : Option Nat :=
  read? 10 s.toList

/-- Reads what `hexadecimal` and `address` write. -/
def readHexadecimal? (s : String) : Option Nat :=
  match s.toList with
  | '0' :: 'x' :: digits => read? 16 digits
  | _ => none

/-- The numbers that the runs of decimal digits in a text stand for. -/
def runs (s : String) : List Nat :=
  (Text.splitOn ' ' (s.toList.map fun c => if c.isDigit then c else ' ')).filterMap (read? 10)

end Numeral

end Handoff
