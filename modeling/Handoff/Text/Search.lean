/-
Where a pattern occurs in a text, as byte offsets.

Occurrences are taken from the left and do not overlap.  The empty pattern occurs
before every character and at the end.
-/
namespace Handoff

namespace Text

/-- How many bytes some characters take. -/
def byteLength : List Char → Nat
  | [] => 0
  | c :: cs => c.utf8Size + byteLength cs

/-- The byte offsets of the occurrences of a pattern, for a text that begins at
`offset`.  An empty pattern advances by one character, as if it were that long. -/
def occurrencesFrom (pattern : List Char) (offset : Nat) (text : List Char) : List Nat :=
  match text with
  | [] => if pattern = [] then [offset] else []
  | c :: rest =>
    if pattern.isPrefixOf (c :: rest) then
      let taken := (c :: rest).take (max 1 pattern.length)
      offset :: occurrencesFrom pattern (offset + byteLength taken)
        ((c :: rest).drop (max 1 pattern.length))
    else occurrencesFrom pattern (offset + c.utf8Size) rest
termination_by text.length
decreasing_by all_goals simp only [List.length_drop, List.length_cons]; omega

/-- The byte offsets of the occurrences of a pattern. -/
def occurrences (pattern text : String) : List Nat :=
  occurrencesFrom pattern.toList 0 text.toList

end Text

end Handoff
