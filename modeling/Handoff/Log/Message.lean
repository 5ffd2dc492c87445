/-
The message of a log record, as the procedure that formats it.

Formatting is not pure text: while it runs it may emit records of its own, stop
with a formatting error, or raise a fault.  A message is the tree of what it does,
so every such procedure that ends is one, to any depth of nesting.
-/
import Handoff.Log.Level
import Handoff.Text.Numeral

namespace Handoff

/-- A place in the program text, as fault reports name it. -/
structure Location where
  file : String
  line : Nat
  deriving DecidableEq

/-- `file:line`. -/
def Location.text (l : Location) : String :=
  l.file ++ ":" ++ Numeral.decimal l.line

/-- What formatting a message does, piece by piece. -/
inductive Message where
  /-- Ends well. -/
  | done
  /-- Ends with a formatting error. -/
  | fail
  /-- Raises a fault whose own message is `cause`. -/
  | raise (location : Option Location) (cause : Message)
  /-- Writes a piece of text and goes on. -/
  | write (text : String) (rest : Message)
  /-- Emits a record of its own and goes on. -/
  | emit (level : Level) (target : String) (message rest : Message)
  deriving DecidableEq

namespace Message

/-- The message that writes one piece of text. -/
def ofText (text : String) : Message :=
  .write text .done

/-- What the message itself writes up to its end, its error or its fault; the
records it emits on the way are not part of it. -/
def text : Message → String
  | .done | .fail | .raise _ _ => ""
  | .write piece rest => piece ++ rest.text
  | .emit _ _ _ rest => rest.text

end Message

end Handoff
