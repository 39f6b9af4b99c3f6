/-!
# Sets of characters as ranges

A property of characters is an ascending list of disjoint code point ranges, both ends included.
-/

namespace Scaffold.Text

/-- Ascending, disjoint, closed ranges of code points. -/
abbrev CodeRanges := List (Nat × Nat)

/-- Membership; the search ends at the first range above the code point. -/
def CodeRanges.contains (n : Nat) : CodeRanges → Bool
  | [] => false
  | (lo, hi) :: rest => if n < lo then false else if n ≤ hi then true else contains n rest

end Scaffold.Text
