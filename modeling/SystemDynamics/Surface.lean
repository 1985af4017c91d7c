import SystemDynamics.Scalar
/-!
# Surfaces

A surface is given by values at points of the plane. The distinct coordinates of the points span
a grid; a cell holds the value of the last point there, or none. An argument is first moved onto
each axis, then the value is interpolated linearly in both directions between the four cells
around it. A cell that counts in this and holds no number leaves the surface without a value.
-/

namespace SystemDynamics

structure Surface (α : Type) where
  name : String
  points : List (α × α × α)
  xs : List α
  ys : List α
  /-- One row per x, one column per y. -/
  grid : List (List (Option α))

namespace Surface

variable {α : Type} [Scalar α]

/-- Adds a coordinate to an ascending axis unless it is there. -/
def addCoordinate (v : α) : List α → List α
  | [] => [v]
  | w :: rest =>
    if Scalar.lt v w then v :: w :: rest
    else if Scalar.eq v w then w :: rest
    else w :: addCoordinate v rest

/-- The distinct coordinates in ascending order. -/
def axis (vs : List α) : List α := vs.foldl (fun a v => addCoordinate v a) []

/-- Whether `a` sorts strictly before `b`; what is no number sorts after all numbers. -/
def sortsBefore (a b : α) : Bool :=
  Scalar.lt a b || (!Scalar.isNaN a && Scalar.isNaN b)

/-- The first place on an axis whose coordinate does not sort before the value. -/
def leftPlace (v : α) (axis : List α) : Nat := (axis.takeWhile (sortsBefore · v)).length

/-- The first place on an axis whose coordinate sorts after the value. -/
def rightPlace (v : α) (axis : List α) : Nat := (axis.takeWhile (!sortsBefore v ·)).length

/-- Writes one point into the grid. -/
def fill (xs ys : List α) (grid : List (List (Option α))) (p : α × α × α) :
    List (List (Option α)) :=
  grid.modify (leftPlace p.1 xs) (·.set (leftPlace p.2.1 ys) (some p.2.2))

def ofPoints (name : String) (points : List (α × α × α)) : Surface α :=
  let xs := axis (points.map (·.1))
  let ys := axis (points.map (·.2.1))
  { name, points, xs, ys
    grid := points.foldl (fill xs ys) (List.replicate xs.length (List.replicate ys.length none)) }

/-- The number in a cell, if it holds one. -/
def cell? (s : Surface α) (i j : Nat) : Option α :=
  (((s.grid[i]?.getD [])[j]?).getD none).filter (!Scalar.isNaN ·)

/-- Two neighbouring places on an axis and how far an argument lies from the first to the
second. -/
structure Bracket (α : Type) where
  lower : Nat
  upper : Nat
  share : α

/-- The argument moved onto an axis that runs from `first` to `last`. -/
def clampTo (first last v : α) : α := Scalar.least (Scalar.greatest v first) last

/-- The bracket of an argument on an axis. -/
def bracket (axis : List α) (v : α) : Bracket α :=
  let first := axis.headD (Scalar.ofNat 0)
  let last := axis.getLastD (Scalar.ofNat 0)
  let v := clampTo first last v
  if axis.length = 1 || Scalar.eq last first then ⟨0, 0, Scalar.ofNat 0⟩
  else
    let lower := min (rightPlace v axis - 1) (axis.length - 2)
    let low := axis.getD lower (Scalar.ofNat 0)
    let high := axis.getD (lower + 1) (Scalar.ofNat 0)
    ⟨lower, lower + 1, (v - low) / (high - low)⟩

/-- Why a surface has no value somewhere. -/
inductive Failure (α : Type) where
  | noPoints
  | missing (x y : α)

/-- A corner of the cell around an argument: its place on both axes and its weight. -/
structure Corner (α : Type) where
  i : Nat
  j : Nat
  weight : α

/-- The corners around an argument. -/
def corners (a b : Bracket α) : List (Corner α) :=
  let one : α := Scalar.ofNat 1
  [⟨a.lower, b.lower, (one - a.share) * (one - b.share)⟩,
   ⟨a.upper, b.lower, a.share * (one - b.share)⟩,
   ⟨a.lower, b.upper, (one - a.share) * b.share⟩,
   ⟨a.upper, b.upper, a.share * b.share⟩]

/-- Adds the weighted values of the corners to a total, leaving out those of no weight. -/
def blend (s : Surface α) (total : α) : List (Corner α) → Except (Failure α) α
  | [] => .ok total
  | c :: rest =>
    if Scalar.eq c.weight (Scalar.ofNat 0) then blend s total rest
    else
      match s.cell? c.i c.j with
      | some z => blend s (total + c.weight * z) rest
      | none => .error (.missing (s.xs.getD c.i (Scalar.ofNat 0)) (s.ys.getD c.j (Scalar.ofNat 0)))

def value (s : Surface α) (x y : α) : Except (Failure α) α :=
  if s.points.isEmpty then .error .noPoints
  else blend s (Scalar.ofNat 0) (corners (bracket s.xs x) (bracket s.ys y))

end Surface

end SystemDynamics
