/-
The parts of a linker script: segments, output sections, and what goes into them.

Each part is written on one line or on a few, without the indentation that its place
in the script gives it.
-/
import Handoff.LinkerScript.Assertion

namespace Handoff

namespace LinkerScript

/-- What a segment's memory may be used for. -/
inductive Permission where
  | execute
  | write
  | read
  deriving DecidableEq

/-- The bit that stands for a permission. -/
def Permission.bit : Permission → Nat
  | execute => 0
  | write => 1
  | read => 2

/-- A loaded segment. -/
structure Segment where
  name : String
  permissions : List Permission
  deriving DecidableEq

/-- A boundary that addresses are rounded up to. -/
inductive Boundary where
  | bytes (n : Nat)
  | kibibytes (n : Nat)
  deriving DecidableEq

/-- The boundary as an expression of the script. -/
def Boundary.text : Boundary → String
  | bytes n => "ALIGN(" ++ Numeral.decimal n ++ ")"
  | kibibytes n => "ALIGN(" ++ Numeral.decimal n ++ "K)"

/-- What a section is made of. -/
inductive Item where
  /-- The input sections of these names. -/
  | inputs (patterns : List String)
  /-- The same, kept even if nothing refers to them. -/
  | keep (patterns : List String)
  | align (boundary : Boundary)
  /-- The address reached gets a name. -/
  | mark (symbol : Symbol)
  deriving DecidableEq

namespace Item

/-- The input sections whose names match one of some patterns. -/
def inputsText (patterns : List String) : String :=
  "*(" ++ " ".intercalate patterns ++ ")"

/-- The line of an item. -/
def text : Item → String
  | inputs patterns => inputsText patterns
  | keep patterns => "KEEP(" ++ inputsText patterns ++ ")"
  | align boundary => ". = " ++ boundary.text ++ ";"
  | mark symbol => symbol.name ++ " = .;"

end Item

/-- An output section; one without a segment is discarded. -/
structure Section where
  name : String
  loaded : Bool := true
  boundary : Option Boundary := none
  items : List Item
  segment : Option String
  deriving DecidableEq

/-- What the placement of sections consists of. -/
inductive Placement where
  | origin (address : UInt64)
  | align (boundary : Boundary)
  | remark (words : String)
  | output (s : Section)
  deriving DecidableEq

/-! ### Text -/

/-- Words that the linker passes over. -/
def remarkText (words : String) : String :=
  "/* " ++ words ++ " */"

/-- A line one level further in. -/
def indent (line : String) : String :=
  "    " ++ line

/-- A permission as the bit it is. -/
def Permission.text (p : Permission) : String :=
  "(1 << " ++ Numeral.decimal p.bit ++ ")"

/-- A segment's declaration, names in a column of eight. -/
def Segment.text (s : Segment) : String :=
  let column := String.ofList (s.name.toList ++ List.replicate (8 - s.name.length) ' ')
  column ++ "PT_LOAD FLAGS(" ++ " | ".intercalate (s.permissions.map Permission.text) ++ ");"

/-- The lines between braces that stand on lines of their own. -/
def block (lines : List String) (closing : String) : List String :=
  ["\x7b"] ++ lines.map indent ++ ["\x7d" ++ closing]

/-- The line that opens a section. -/
def Section.head (s : Section) : String :=
  s.name ++ (if s.loaded then "" else " (NOLOAD)") ++ " :"
    ++ (match s.boundary with
      | some boundary => " " ++ boundary.text
      | none => "")

/-- The lines of a section. -/
def Section.lines (s : Section) : List String :=
  s.head :: block (s.items.map Item.text)
    (match s.segment with
      | some segment => " :" ++ segment
      | none => "")

/-- The lines of a placement. -/
def Placement.lines : Placement → List String
  | origin address => [". = " ++ Numeral.hexadecimal address.toNat ++ ";"]
  | align boundary => [". = " ++ boundary.text ++ ";"]
  | remark words => [remarkText words]
  | output s => s.lines

end LinkerScript

end Handoff
