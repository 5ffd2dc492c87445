/-
Paths as they are written: names with slashes between them.
-/
import Handoff.Text.Split

namespace Handoff

namespace Path

/-- The names of a path, some of them empty where slashes meet or end it. -/
def names (path : String) : List String :=
  (Text.splitOn '/' path.toList).map String.ofList

/-- Whether a path starts at the root. -/
def isAbsolute (path : String) : Bool :=
  path.toList.head? = some '/'

/-- A path followed by a name: one slash between them, unless the path is empty or
ends in one. -/
def join (path name : String) : String :=
  if path = "" ∨ path.toList.getLast? = some '/' then path ++ name else path ++ "/" ++ name

/-- The last name of a path, if it is not empty. -/
def fileName? (path : String) : Option String :=
  (names path).getLast?.filter (· ≠ "")

end Path

end Handoff
