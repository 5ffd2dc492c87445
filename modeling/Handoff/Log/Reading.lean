/-
Reading a serial log back.

A log is cut at its newlines, and each line at its first space and at the first
bracket that closes its head.  What a record's message says is not looked into, so
brackets and spaces in it do no harm.

The log of a hand-off also says what was zeroed and what was called.  For that it is cut
into words, and the words that are numerals are read.
-/
import Handoff.Log.Level
import Handoff.Text.Numeral
import Handoff.Text.Split

namespace Handoff

/-- A record as it can be read off a log. -/
structure LogLine where
  level : Level
  target : String
  message : String
  deriving DecidableEq

namespace LogLine

/-- Reads one line. -/
def read? : List Char → Option LogLine
  | '[' :: line => do
    let (tag, line) ← Text.cut? ' ' line
    let (target, line) ← Text.cut? ']' line
    let level ← Level.ofTag? (.ofList tag)
    match line with
    | ' ' :: message => some { level, target := .ofList target, message := .ofList message }
    | _ => none
  | _ => none

/-- Reads a whole log, every line of which must be ended. -/
def readAll? (log : String) : Option (List LogLine) :=
  match (Text.splitOn '\n' log.toList).reverse with
  | [] :: lines => lines.reverse.mapM read?
  | _ => none

end LogLine

/-! ### The numbers of a hand-off -/

/-- The words of a text; a newline parts two of them as a space does. -/
def Text.words (s : String) : List String :=
  (splitOn ' ' (s.toList.map fun c => if c = '\n' then ' ' else c)).map String.ofList

namespace Numeral

/-- The words that are decimal numerals, as numbers. -/
def decimals (s : String) : List Nat :=
  (Text.words s).filterMap readDecimal?

/-- The words that are hexadecimal numerals, as numbers. -/
def hexadecimals (s : String) : List Nat :=
  (Text.words s).filterMap readHexadecimal?

end Numeral

/-- What the log of a hand-off tells: how many bytes were zeroed and from where on, and the
address that was called. -/
structure Account where
  zeroed : Nat
  start : Nat
  entry : Nat
  deriving DecidableEq

/-- Reads the account off a log with one decimal numeral and two hexadecimal ones. -/
def Account.read? (log : String) : Option Account :=
  match Numeral.decimals log, Numeral.hexadecimals log with
  | [zeroed], [start, entry] => some { zeroed, start, entry }
  | _, _ => none

end Handoff
