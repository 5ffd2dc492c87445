/-
How the linker script is found and made known to those who link the image.

The script is the one that a variable of the environment names, or else the file of
the usual name in the package's own directory.  Its canonical path is published
twice: as metadata for the package that links, and as a variable for this package's
own compilation.  What is known before a failure has already been said by then.
-/
import Handoff.FileTree
import Handoff.LinkerScript.Kernel
import Handoff.Text.Quoted

namespace Handoff

/-- The value of a variable of the environment. -/
inductive Variable where
  | unset
  | text (value : String)
  /-- Set, to bytes that are no text. -/
  | bytes (value : List UInt8)
  deriving DecidableEq

namespace Variable

/-- The variable set to some bytes. -/
def ofBytes (value : List UInt8) : Variable :=
  match String.fromUTF8? ⟨value.toArray⟩ with
  | some s => .text s
  | none => .bytes value

end Variable

/-- The variables that matter here. -/
structure Environment where
  /-- Names another script. -/
  script : Variable
  /-- The directory of the package. -/
  package : Variable
  deriving DecidableEq

/-- Why there is no script to work on. -/
inductive PublicationError where
  | notPresent
  | notUnicode (value : List UInt8)
  | unresolved (cause : ResolveError)
  deriving DecidableEq

namespace PublicationError

/-- What is said of a variable that has to hold text and does not. -/
def variableComplaint : String := "called `Result::unwrap()` on an `Err` value: "

/-- What the failure says. -/
def message : PublicationError → String
  | notPresent => variableComplaint ++ "NotPresent"
  | notUnicode value => variableComplaint ++ "NotUnicode(" ++ Text.quoteBytes value ++ ")"
  | unresolved cause =>
    "linker script must exist: Os \x7b code: " ++ Numeral.decimal cause.code
      ++ ", kind: " ++ cause.kind ++ ", message: \"" ++ cause.description ++ "\" \x7d"

end PublicationError

/-! ### Directives -/

/-- What is said to the build, one line each. -/
inductive Directive where
  | rerunIfChanged (path : String)
  | rerunIfVariableChanged (name : String)
  | metadata (key value : String)
  | setVariable (name value : String)
  deriving DecidableEq

namespace Directive

/-- What opens the line of a directive. -/
def opening : Directive → String
  | rerunIfChanged _ => "cargo:rerun-if-changed="
  | rerunIfVariableChanged _ => "cargo:rerun-if-env-changed="
  | metadata key _ => "cargo:" ++ key ++ "="
  | setVariable name _ => "cargo:rustc-env=" ++ name ++ "="

/-- What the directive says. -/
def value : Directive → String
  | rerunIfChanged path => path
  | rerunIfVariableChanged name => name
  | metadata _ value => value
  | setVariable _ value => value

/-- The line of a directive. -/
def line (d : Directive) : String :=
  d.opening ++ d.value

@[simp]
theorem line_rerunIfChanged (path : String) :
    (rerunIfChanged path).line = "cargo:rerun-if-changed=" ++ path := rfl

@[simp]
theorem line_rerunIfVariableChanged (name : String) :
    (rerunIfVariableChanged name).line = "cargo:rerun-if-env-changed=" ++ name := rfl

@[simp]
theorem line_metadata (key value : String) :
    (metadata key value).line = "cargo:" ++ key ++ "=" ++ value := rfl

@[simp]
theorem line_setVariable (name value : String) :
    (setVariable name value).line = "cargo:rustc-env=" ++ name ++ "=" ++ value := rfl

/-- The directive that a line gives.  What the build keeps for its own directives is
no key of metadata. -/
def ofLine? (line : String) : Option Directive :=
  match "cargo:".toList.isPrefixOf? line.toList with
  | none => none
  | some said =>
    match Text.cut? '=' said with
    | none => none
    | some (key, value) =>
      if key = "rerun-if-changed".toList then some (.rerunIfChanged (.ofList value))
      else if key = "rerun-if-env-changed".toList then
        some (.rerunIfVariableChanged (.ofList value))
      else if key = "rustc-env".toList then
        (Text.cut? '=' value).map fun set => .setVariable (.ofList set.1) (.ofList set.2)
      else some (.metadata (.ofList key) (.ofList value))

/-- Some directives as they are printed, each on its line. -/
def printed (directives : List Directive) : String :=
  String.join (directives.map fun d => d.line ++ "\n")

/-- The directives that are printed in a text.  Other lines are passed over. -/
def readAll (text : String) : List Directive :=
  (Text.splitOn '\n' text.toList).filterMap fun line => ofLine? (.ofList line)

/-- The path to watch, if the directive gives one. -/
def watchedPath? : Directive → Option String
  | rerunIfChanged path => some path
  | _ => none

/-- The name of the variable to watch, if the directive gives one. -/
def watchedVariable? : Directive → Option String
  | rerunIfVariableChanged name => some name
  | _ => none

/-- The key and the value of metadata. -/
def metadata? : Directive → Option (String × String)
  | metadata key value => some (key, value)
  | _ => none

/-- The name and the value of a variable that is set. -/
def setting? : Directive → Option (String × String)
  | setVariable name value => some (name, value)
  | _ => none

end Directive

/-! ### Publishing -/

namespace Environment

/-- The variable that names another script. -/
def scriptName : String := "CUPRUX_LINKER_SCRIPT"

/-- The path to work on. -/
def scriptPath (e : Environment) : Except PublicationError String :=
  match e.script with
  | .text path => .ok path
  | .unset | .bytes _ =>
    match e.package with
    | .text directory => .ok (Path.join directory LinkerScript.fileName)
    | .unset => .error .notPresent
    | .bytes value => .error (.notUnicode value)

end Environment

/-- The key under which the package that links finds the script. -/
def metadataKey : String := "KERNEL_LD"

/-- The variable under which this package's own compilation finds it. -/
def publishedName : String := "CUPRUX_KERNEL_LD"

/-- What is said before anything is known about the script. -/
def preamble : List Directive :=
  [.rerunIfChanged "build.rs", .rerunIfVariableChanged Environment.scriptName]

/-- What is said once the canonical path is known. -/
def announcement (path : String) : List Directive :=
  [.metadata metadataKey path, .setVariable publishedName path]

/-- Finds the script and publishes it: everything said, and the path published unless
something failed.  `canonicalize` is what the file system knows of a path. -/
def publish (canonicalize : String → Except ResolveError String) (e : Environment) :
    List Directive × Except PublicationError String :=
  match e.scriptPath with
  | .error cause => (preamble, .error cause)
  | .ok path =>
    match canonicalize path with
    | .error cause => (preamble ++ [.rerunIfChanged path], .error (.unresolved cause))
    | .ok canonical =>
      (preamble ++ [.rerunIfChanged path] ++ announcement canonical, .ok canonical)

end Handoff
