/-
A linker script as a whole, and its text.

The script opens with remarks and settings, then declares segments, places sections,
and closes with assertions; an empty line sets each of these apart from the next.
-/
import Handoff.LinkerScript.Section

namespace Handoff

namespace LinkerScript

/-- A remark at the head of the file. -/
inductive Remark where
  /-- Whose work it is. -/
  | rights (year : Nat) (holder : String)
  /-- On which terms it may be used. -/
  | terms (identifier : String)
  | note (words : String)
  deriving DecidableEq

/-- The words of a remark. -/
def Remark.text : Remark → String
  | rights year holder => "Copyright " ++ Numeral.decimal year ++ " " ++ holder
  | terms identifier => "SPDX-License-Identifier: " ++ identifier
  | note words => words

end LinkerScript

open LinkerScript in
/-- A linker script.  Remarks and placements come in groups that an empty line sets
apart. -/
structure LinkerScript where
  remarks : List (List Remark)
  format : String
  entry : String
  segments : List Segment
  placements : List (List Placement)
  assertions : List Assertion
  deriving DecidableEq

namespace LinkerScript

/-- The same line, indented unless it is empty. -/
def indentUnlessEmpty (line : String) : String :=
  if line = "" then line else indent line

/-- Groups of lines with an empty line between any two. -/
def separate : List (List String) → List String
  | [] => []
  | [group] => group
  | group :: groups => group ++ [""] ++ separate groups

/-- The lines of the script. -/
def lines (s : LinkerScript) : List String :=
  separate
    (s.remarks.map (List.map fun r => remarkText r.text)
      ++ [["OUTPUT_FORMAT(" ++ s.format ++ ")", "ENTRY(" ++ s.entry ++ ")"],
        "PHDRS" :: block (s.segments.map Segment.text) "",
        ["SECTIONS", "\x7b"]
          ++ (separate (s.placements.map fun g => g.flatMap Placement.lines)).map indentUnlessEmpty
          ++ ["\x7d"],
        s.assertions.map Assertion.text])

/-- The text of the script, every line ended. -/
def text (s : LinkerScript) : String :=
  String.join (s.lines.map fun line => line ++ "\n")

/-- Whether a layout meets everything the script asserts. -/
def Accepts (s : LinkerScript) (l : Layout) : Prop :=
  ∀ a ∈ s.assertions, a.Holds l

instance (s : LinkerScript) (l : Layout) : Decidable (s.Accepts l) :=
  inferInstanceAs (Decidable (∀ a ∈ s.assertions, a.Holds l))

end LinkerScript

end Handoff
