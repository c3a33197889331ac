/-!
# Sets of code points

A set of code points is given by its inclusive ranges, in increasing order.
-/

namespace PatternLint.Text

/-- The code points that lie in one of the inclusive `ranges`. -/
structure CodeSet where
  ranges : Array (Nat × Nat)

namespace CodeSet

def contains (s : CodeSet) (n : Nat) : Bool := s.ranges.any fun r => r.1 ≤ n && n ≤ r.2

/-- The range that holds `n`. -/
def rangeOf? (s : CodeSet) (n : Nat) : Option (Nat × Nat) :=
  s.ranges.find? fun r => r.1 ≤ n && n ≤ r.2

end CodeSet

end PatternLint.Text
