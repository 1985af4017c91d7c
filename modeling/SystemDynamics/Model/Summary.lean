import SystemDynamics.Model.Basic
/-!
# Summaries

What the snapshots of a run say about each stock: the least, the greatest, the last and the mean
of its values.
-/

namespace SystemDynamics

structure Summary where
  least : Float
  greatest : Float
  last : Float
  mean : Float
  deriving DecidableEq

namespace Summary

/-- The entries of a summary with their names. -/
def entries (s : Summary) : List (String × Float) :=
  [("min", s.least), ("max", s.greatest), ("last", s.last), ("avg", s.mean)]

/-- The summary of values, in order, if there are any. Of equal extremes the first counts; the
sum is taken from the left. -/
def ofValues? : List Float → Option Summary
  | [] => none
  | x :: xs =>
    some {
      least := xs.foldl Scalar.least x
      greatest := xs.foldl Scalar.greatest x
      last := xs.getLastD x
      mean := (x :: xs).foldl (· + ·) 0.0 / Float.ofNat (xs.length + 1) }

end Summary

namespace Model

/-- The summaries over snapshots of the stocks that the model has and that occur there. -/
def summariseOver (m : Model) (snapshots : List Snapshot) : List (String × Summary) :=
  m.stocks.names.filterMap fun name =>
    (Summary.ofValues? (snapshots.filterMap (·.values.get? name))).map fun s => (name, s)

/-- The summaries over the history. -/
def summarise (m : Model) : List (String × Summary) := m.summariseOver m.history.entries

end Model

end SystemDynamics
