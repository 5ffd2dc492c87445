/-
Sets of code points, written as tables of ranges.
-/
namespace Handoff

namespace Text

/-- Ranges of numbers, each by its first and its last. -/
abbrev Ranges := List (Nat × Nat)

namespace Ranges

/-- Whether a number lies in one of the ranges. -/
def contains (ranges : Ranges) (n : Nat) : Bool :=
  ranges.any fun range => range.1 ≤ n && n ≤ range.2

end Ranges

end Text

end Handoff
