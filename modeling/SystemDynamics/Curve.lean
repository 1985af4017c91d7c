import SystemDynamics.Scalar
import SystemDynamics.Sorting.Runs
/-!
# Curves

A curve is given by points, is linear between neighbouring points and flat beyond its ends. The
points are kept sorted by both coordinates; of several points with one x, an argument at that x
gets the last. An x that is no number compares with nothing; points that have it stay where the
sorting leaves them.
-/

namespace SystemDynamics

structure Curve (α : Type) where
  name : String
  points : List (α × α)

/-- A point as it is given. -/
structure GivenPoint (α : Type) where
  x : α
  y : α
  /-- Where an x comes from that is no number, if that is known. -/
  origin : Option String

namespace GivenPoint

variable {α : Type} [Scalar α]

/-- Whether two points have one x. What is no number is the same only if it has one origin. -/
def sameX (p q : GivenPoint α) : Bool :=
  Scalar.eq p.x q.x ||
    (Scalar.isNaN p.x && Scalar.isNaN q.x && p.origin.isSome && p.origin == q.origin)

/-- The order of points: by x, then by y. -/
def before (p q : GivenPoint α) : Bool :=
  if sameX p q then Scalar.lt p.y q.y else Scalar.lt p.x q.x

/-- Whether both coordinates are numbers. -/
def isDefinite (p : GivenPoint α) : Bool := !Scalar.isNaN p.x && !Scalar.isNaN p.y

def coordinates (p : GivenPoint α) : α × α := (p.x, p.y)

/-- The points in ascending order, equal ones in the order given. Where a coordinate is no
number, in the order that sorting by runs gives. -/
def sort (points : List (GivenPoint α)) : List (GivenPoint α) :=
  if points.all isDefinite then points.mergeSort fun p q => !before q p
  else Sorting.sortByRuns before points

end GivenPoint

namespace Curve

variable {α : Type} [Scalar α]

/-- The curve through points as they are given. -/
def ofGiven (name : String) (points : List (GivenPoint α)) : Curve α :=
  ⟨name, (GivenPoint.sort points).map (·.coordinates)⟩

def ofPoints (name : String) (points : List (α × α)) : Curve α :=
  ofGiven name (points.map fun p => ⟨p.1, p.2, none⟩)

/-- The value at `x` on the line through two neighbouring points. Where the slope is infinite
the line is taken from the right point, and where that is no number either from a common y. -/
def between (p q : α × α) (x : α) : α :=
  if Scalar.eq p.1 x then p.2
  else
    let slope := (q.2 - p.2) / (q.1 - p.1)
    let fromLeft := slope * (x - p.1) + p.2
    if !Scalar.isNaN fromLeft then fromLeft
    else
      let fromRight := slope * (x - q.1) + q.2
      if Scalar.isNaN fromRight && Scalar.eq p.2 q.2 then p.2 else fromRight

/-- The value at an `x` that is not before the point `p`, the others following it. -/
def follow (x : α) (p : α × α) : List (α × α) → α
  | [] => p.2
  | q :: rest => if Scalar.le q.1 x then follow x q rest else between p q x

/-- The place of the last point that is not after `x`, among many of which the first is not. The
first few points are tried in turn. -/
def lastUpTo (x : α) (points : List (α × α)) : Nat :=
  let isPast := fun i => points[i]?.any (Scalar.lt x ·.1)
  if isPast 1 then 0
  else if isPast 2 then 1
  else if isPast 3 then 2
  else
    let bound := if isPast 9 && 10 < points.length then 9 else points.length
    Search.bisect (fun i => !points[i]?.any (Scalar.le ·.1 x)) points.length 3 bound - 1

/-- The number of points up to which they are all tried in turn. -/
def few : Nat := 4

/-- The value at `x` of the curve through the sorted points, if there are any. A single point
gives its y everywhere. -/
def valueOn? (x : α) : List (α × α) → Option α
  | [] => none
  | [p] => some p.2
  | p :: q :: rest =>
    let points := p :: q :: rest
    let last := rest.getLastD q
    if Scalar.isNaN x then some x
    else if Scalar.lt last.1 x then some last.2
    else if Scalar.lt x p.1 then some p.2
    else if points.length ≤ few then some (follow x p (q :: rest))
    else
      match points.drop (lastUpTo x points) with
      | left :: right :: _ => some (between left right x)
      | [left] => some left.2
      | [] => none

def value? (c : Curve α) (x : α) : Option α := valueOn? x c.points

end Curve

end SystemDynamics
