import RecordGen.Text

/-!
# Sets of code points

A set of code points as a list of closed ranges in ascending order, and membership in it.
-/

namespace RecordGen.Unicode

/-- Closed ranges, disjoint and ascending. -/
abbrev Ranges := List (Nat × Nat)

namespace Ranges

/-- Some range holds the number. The search ends at the first range that starts past it. -/
def holds : Ranges → Nat → Bool
  | [], _ => false
  | (first, last) :: rest, n =>
    if n < first then false else if n ≤ last then true else holds rest n

/-- Some range holds the code point. -/
def contains (ranges : Ranges) (c : CodePoint) : Bool := ranges.holds c.val

end Ranges

end RecordGen.Unicode
