/-
The two ways a value with parts is shown: on one line, or one part to a line.

A shown value has a name and either labelled parts in braces or bare parts in
parentheses.  Expanded, every part stands on its own line, indented and closed by
a comma, and addresses are padded to their full width so that they line up.
-/
import Handoff.Text.Numeral

namespace Handoff

/-- Whether a value is shown on one line or one part to a line. -/
inductive Style where
  | compact
  | expanded
  deriving DecidableEq

namespace Style

/-- What stands before a part on a line of its own. -/
def indentation : String := "    "

/-- The parts between an opening and a closing mark.  `gap` is what separates the
marks from the parts when all stand on one line. -/
def enclose (style : Style) (opening closing gap : String) (parts : List String) : String :=
  match style with
  | .compact => opening ++ gap ++ ", ".intercalate parts ++ gap ++ closing
  | .expanded =>
    opening ++ "\n" ++ String.join (parts.map fun part => indentation ++ part ++ ",\n") ++ closing

/-- A named value with labelled parts. -/
def labelled (style : Style) (name : String) (parts : List (String × String)) : String :=
  style.enclose (name ++ " \x7b") "\x7d" " " (parts.map fun part => part.1 ++ ": " ++ part.2)

/-- A named value with bare parts. -/
def bare (style : Style) (name : String) (parts : List String) : String :=
  style.enclose (name ++ "(") ")" "" parts

/-- A machine address: padded where parts line up below each other. -/
def pointer : Style → UInt64 → String
  | .compact, address => Numeral.hexadecimal address.toNat
  | .expanded, address => Numeral.address address.toNat

end Style

end Handoff
