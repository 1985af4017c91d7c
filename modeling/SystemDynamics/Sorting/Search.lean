/-!
# Searching

Finding the border between the places where a property holds and those where it does not: by
halving a stretch of places, or first by strides that double, from the front or from the back.
All of them find the border if there is just one; which border they find where there are several
is part of what they are.
-/

namespace SystemDynamics

namespace Search

/-- The first place between two where a property holds, if it holds from there on: found by
bisection. Each of so many steps halves the distance at least. -/
def bisect (holds : Nat → Bool) : Nat → Nat → Nat → Nat
  | 0, left, _ => left
  | steps + 1, left, right =>
    if left < right then
      let middle := (left + right) / 2
      if holds middle then bisect holds steps left middle
      else bisect holds steps (middle + 1) right
    else left

/-- Strides 1, 3, 7 and so on as long as a property holds there and they stay below a bound: the
last one where it held, and the one after it. -/
def stride (holds : Nat → Bool) (bound : Nat) : Nat → Nat → Nat → Nat × Nat
  | 0, last, next => (last, next)
  | steps + 1, last, next =>
    if next < bound && holds next then stride holds bound steps next (2 * next + 1)
    else (last, next)

/-- How many of the first places a property holds at, sought from the front. -/
def fromFront (holds : Nat → Bool) (count : Nat) : Nat :=
  if 0 < count && holds 0 then
    let (last, next) := stride holds count count 0 1
    bisect (!holds ·) count (last + 1) (min next count)
  else 0

/-- How many of the first places a property holds at, sought from the back. -/
def fromBack (holds : Nat → Bool) (count : Nat) : Nat :=
  if holds (count - 1) then count
  else
    let (last, next) := stride (fun k => !holds (count - 1 - k)) count count 0 1
    bisect (!holds ·) count (count - min next count) (count - 1 - last)

end Search

end SystemDynamics
