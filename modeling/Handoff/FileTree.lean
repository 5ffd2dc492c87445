/-
A tree of directories, files and symbolic links, and how a path is resolved in it.

Resolving walks a path name by name and follows every link it meets, up to a limit
on their number.  Whatever is followed by another name, even by an empty one after a
trailing slash, must be a directory.  The result is a place: the names that lead to
it from the root, with no link, no `.` and no `..` among them.

Each name is looked up by the absolute path to its place, and it is that path whose
length is limited.  The path to resolve may be longer, and a short one may lead, by way
of a link, to a place that is too far down to be looked at.
-/
import Handoff.Path

namespace Handoff

/-- What can stand at a place. -/
inductive Entry where
  | directory
  | file
  | link (target : String)
  deriving DecidableEq

/-- The names that lead from the root to something. -/
abbrev Place := List String

/-- What stands at which place, the root aside. -/
structure FileTree where
  entries : List (Place × Entry)
  deriving DecidableEq

/-- Why a path cannot be resolved. -/
inductive ResolveError where
  | notFound
  | notADirectory
  | nameTooLong
  | tooManyLinks
  deriving DecidableEq

namespace ResolveError

/-- The number that a system gives the error. -/
def code : ResolveError → Nat
  | notFound => 2
  | notADirectory => 20
  | nameTooLong => 36
  | tooManyLinks => 40

/-- The kind of error it belongs to. -/
def kind : ResolveError → String
  | notFound => "NotFound"
  | notADirectory => "NotADirectory"
  | nameTooLong => "InvalidFilename"
  | tooManyLinks => "FilesystemLoop"

/-- The system's description of it. -/
def description : ResolveError → String
  | notFound => "No such file or directory"
  | notADirectory => "Not a directory"
  | nameTooLong => "File name too long"
  | tooManyLinks => "Too many levels of symbolic links"

end ResolveError

/-- The absolute path to a place. -/
def Place.path (place : Place) : String :=
  "/" ++ "/".intercalate place

namespace FileTree

/-- The tree with nothing below its root. -/
def bare : FileTree := ⟨[]⟩

/-- What stands at a place; the root is a directory. -/
def entry? (t : FileTree) (place : Place) : Option Entry :=
  if place = [] then some .directory else t.entries.lookup place

/-- The longest name there can be, in bytes. -/
def nameLimit : Nat := 255

/-- The longest path that can be looked up, in bytes. -/
def pathLimit : Nat := 4095

/-- How many links one resolution may follow. -/
def linkLimit : Nat := 40

/-- Where a path begins to be walked. -/
def origin (path : String) (place : Place) : Place :=
  if Path.isAbsolute path then [] else place

/-- What stands under a name in a place. -/
def look (t : FileTree) (place : Place) (name : String) : Except ResolveError Entry :=
  if pathLimit < (place ++ [name]).path.utf8ByteSize then .error .nameTooLong
  else if t.entry? place ≠ some .directory then .error .notADirectory
  else if nameLimit < name.utf8ByteSize then .error .nameTooLong
  else match t.entry? (place ++ [name]) with
    | none => .error .notFound
    | some e => .ok e

/-- Whether what stands before these names must be looked up as a directory: they end
with no name in it, or turn back from it.  Where a name in it follows, looking that up
will tell. -/
def needsDirectory (rest : List String) : Bool :=
  rest ≠ [] && match rest.dropWhile fun name => name = "" ∨ name = "." with
    | [] => true
    | name :: _ => name = ".."

/-- Looks a place up as a directory, by its path with a slash at the end. -/
def enter (place : Place) (e : Entry) : Except ResolveError Unit :=
  if pathLimit < place.path.utf8ByteSize + 1 then .error .nameTooLong
  else if e ≠ .directory then .error .notADirectory
  else .ok ()

/-- Walks the names that are left, from a place on, with so many links left to follow. -/
def walk (t : FileTree) (links : Nat) (rest : List String) (place : Place) :
    Except ResolveError Place :=
  match rest with
  | [] => .ok place
  | name :: rest =>
    if name = "" ∨ name = "." then t.walk links rest place
    else if name = ".." then t.walk links rest place.dropLast
    else match t.look place name with
      | .error e => .error e
      | .ok (.link target) =>
        match links with
        | 0 => .error .tooManyLinks
        | links + 1 => t.walk links (Path.names target ++ rest) (origin target place)
      | .ok e =>
        match if needsDirectory rest then enter (place ++ [name]) e else .ok () with
        | .error e => .error e
        | .ok () => t.walk links rest (place ++ [name])
termination_by (links, rest.length)

/-- The place that a path leads to from a working directory. -/
def resolve (t : FileTree) (directory : Place) (path : String) : Except ResolveError Place :=
  if path = "" then .error .notFound
  else t.walk linkLimit (Path.names path) (origin path directory)

/-- The absolute path, without links, of what a path leads to. -/
def canonicalize (t : FileTree) (directory : Place) (path : String) :
    Except ResolveError String :=
  (t.resolve directory path).map Place.path

/-! ### Growing a tree -/

/-- Puts something at a place where nothing stands yet. -/
def insert (t : FileTree) (place : Place) (e : Entry) : FileTree :=
  if (t.entry? place).isSome then t else ⟨t.entries ++ [(place, e)]⟩

/-- Makes a directory and every directory above it. -/
def makeDirectory (t : FileTree) (place : Place) : FileTree :=
  ((List.range (place.length + 1)).map place.take).foldl
    (fun t above => t.insert above .directory) t

/-- Puts something at a place, in directories made for it where they are missing. -/
def make (t : FileTree) (place : Place) (e : Entry) : FileTree :=
  (t.makeDirectory place.dropLast).insert place e

end FileTree

end Handoff
