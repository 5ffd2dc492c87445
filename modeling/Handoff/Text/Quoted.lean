/-
Bytes between quotation marks: characters where the bytes are text, and escapes
where they are not or where a character could not be told apart on paper.
-/
import Handoff.Text.Extending
import Handoff.Text.Ignorable
import Handoff.Text.Numeral
import Handoff.Text.Unprintable

namespace Handoff

namespace Text

/-- The hexadecimal digits of a number, at least `width` of them. -/
def hexDigits (width n : Nat) : List Char :=
  (Nat.toDigits 16 n).leftpad width '0'

/-- Whether a character shows on its own. -/
def isPlain (c : Char) : Bool :=
  !isUnprintable c && !isExtending c && !isIgnorable c

/-- A character as it stands between quotation marks. -/
def escapeChar (c : Char) : List Char :=
  match c with
  | '\x00' => ['\\', '0']
  | '\t' => ['\\', 't']
  | '\n' => ['\\', 'n']
  | '\r' => ['\\', 'r']
  | '"' => ['\\', '"']
  | '\\' => ['\\', '\\']
  | c =>
    if isPlain c then [c]
    else ['\\', 'u', '\x7b'] ++ hexDigits 1 c.toNat ++ ['\x7d']

/-- A byte that belongs to no character. -/
def escapeByte (b : UInt8) : List Char :=
  ['\\', 'x'] ++ (hexDigits 2 b.toNat).map Char.toUpper

/-- The character at the head of some bytes and how many bytes it takes, if they
begin with one. -/
def leadingChar? (bytes : List UInt8) : Option (Char × Nat) :=
  [1, 2, 3, 4].findSome? fun n =>
    match String.fromUTF8? ⟨(bytes.take n).toArray⟩ with
    | some s => s.toList.head?.map fun c => (c, n)
    | none => none

/-- The escaped form of some bytes. -/
def escapeBytes : List UInt8 → List Char
  | [] => []
  | b :: bytes =>
    match leadingChar? (b :: bytes) with
    | some (c, n) => escapeChar c ++ escapeBytes (bytes.drop (n - 1))
    | none => escapeByte b ++ escapeBytes bytes
termination_by bytes => bytes.length
decreasing_by all_goals simp only [List.length_drop, List.length_cons]; omega

/-- Some bytes between quotation marks. -/
def quoteBytes (bytes : List UInt8) : String :=
  "\"" ++ String.ofList (escapeBytes bytes) ++ "\""

end Text

end Handoff
