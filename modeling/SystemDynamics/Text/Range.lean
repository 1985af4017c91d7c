/-!
# Ranges of code points

A property of characters is kept as its closed ranges of code points, ascending and apart.
Looking a character up stops at the first range that ends at or after it.
-/

namespace SystemDynamics.Text

/-- Whether the code point lies in one of the ranges, which ascend. -/
def inRanges : List (Nat × Nat) → Nat → Bool
  | [], _ => false
  | (first, last) :: rest, n => if n ≤ last then first ≤ n else inRanges rest n

end SystemDynamics.Text
