/-!
# Scalars

The arithmetic that the curves, surfaces and delays need. The simulation computes in binary64;
the same definitions over exact numbers say what they compute when nothing is rounded.
-/

namespace SystemDynamics

/-- Numbers with the four operations, comparisons, and a test for values that are no number.
`settle` gives the number that a sample counts as in a mean or between two others; it differs from
the sample only where whole and real numbers are mixed. -/
class Scalar (α : Type) extends Add α, Sub α, Mul α, Div α, Neg α where
  ofNat : Nat → α
  lt : α → α → Bool
  le : α → α → Bool
  eq : α → α → Bool
  isNaN : α → Bool
  isFinite : α → Bool
  settle : α → α

instance : Scalar Float where
  ofNat := Float.ofNat
  lt x y := x < y
  le x y := x ≤ y
  eq x y := x == y
  isNaN := Float.isNaN
  isFinite := Float.isFinite
  settle := id

namespace Scalar

variable {α : Type} [Scalar α]

/-- The lesser of two numbers, the first unless the second is less. -/
def least (x y : α) : α := if lt y x then y else x

/-- The greater of two numbers, the first unless the second is greater. -/
def greatest (x y : α) : α := if lt x y then y else x

end Scalar

end SystemDynamics
