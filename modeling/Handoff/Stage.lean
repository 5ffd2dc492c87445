/-
The stages of a hand-off, from the loader's jump to the kernel's possible return.

They form one chain: every stage but the last has exactly one successor, and the
order of stages is the order of the chain.
-/
namespace Handoff

/-- How far the boot CPU has come. -/
inductive Stage where
  | init
  | interruptsMasked
  | stackEstablished
  | zeroFillComplete
  | transferred
  /-- Reached only when the kernel returns; nothing follows. -/
  | halted
  deriving DecidableEq

namespace Stage

/-- The one stage that may follow. -/
def next : Stage → Option Stage
  | init => some interruptsMasked
  | interruptsMasked => some stackEstablished
  | stackEstablished => some zeroFillComplete
  | zeroFillComplete => some transferred
  | transferred => some halted
  | halted => none

/-- The position in the chain. -/
def rank : Stage → Nat
  | init => 0
  | interruptsMasked => 1
  | stackEstablished => 2
  | zeroFillComplete => 3
  | transferred => 4
  | halted => 5

/-- Stages are ordered along the chain. -/
instance : Ord Stage where
  compare s t := compare s.rank t.rank

instance : LE Stage := leOfOrd
instance : LT Stage := ltOfOrd
instance : Max Stage := maxOfLe

/-- Less of the chain is left after a step. -/
theorem remaining_lt {s t : Stage} (h : s.next = some t) : 5 - t.rank < 5 - s.rank := by
  cases s <;> simp only [next, Option.some.injEq, reduceCtorEq] at h <;> subst h <;> decide

/-- The stage and all that follow it. -/
def chain (s : Stage) : List Stage :=
  match h : s.next with
  | none => [s]
  | some t =>
    have := remaining_lt h
    s :: chain t
termination_by 5 - s.rank

/-- The name a report gives the stage. -/
def name : Stage → String
  | init => "Init"
  | interruptsMasked => "InterruptsMasked"
  | stackEstablished => "StackEstablished"
  | zeroFillComplete => "ZeroFillComplete"
  | transferred => "Transferred"
  | halted => "Halted"

/-- All stages, in order. -/
def all : List Stage :=
  [init, interruptsMasked, stackEstablished, zeroFillComplete, transferred, halted]

/-- The stage of that name. -/
def ofName? (s : String) : Option Stage :=
  all.find? fun stage => stage.name == s

/-- How a report shows a stage that may be missing. -/
def displayOption : Option Stage → String
  | none => "None"
  | some s => "Some(" ++ s.name ++ ")"

end Stage

end Handoff
