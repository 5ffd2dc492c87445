/-
How urgent a log record is, and which levels a build keeps.
-/
namespace Handoff

/-- The urgency of a log record. -/
inductive Level where
  | error
  | warn
  | info
  | debug
  | trace
  deriving DecidableEq

namespace Level

/-- The word that opens a record of this level. -/
def tag : Level → String
  | error => "ERROR"
  | warn => "WARN"
  | info => "INFO"
  | debug => "DEBUG"
  | trace => "TRACE"

/-- The name of the level itself. -/
def name : Level → String
  | error => "Error"
  | warn => "Warn"
  | info => "Info"
  | debug => "Debug"
  | trace => "Trace"

/-- All levels, the most urgent first. -/
def all : List Level := [error, warn, info, debug, trace]

/-- The level of that name. -/
def ofName? (s : String) : Option Level :=
  all.find? fun level => level.name == s

/-- The level whose records open with that word. -/
def ofTag? (s : String) : Option Level :=
  all.find? fun level => level.tag == s

/-- The two chatty levels are kept only by a build that also checks its assertions. -/
def enabled (checks : Bool) : Level → Bool
  | debug | trace => checks
  | error | warn | info => true

end Level

end Handoff
