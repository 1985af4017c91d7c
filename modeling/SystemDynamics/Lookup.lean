import SystemDynamics.Curve
import SystemDynamics.Surface
import SystemDynamics.Fault
/-!
# Lookup tables

Curves and surfaces as tables that a name stands for: reading them where they have no value is a
fault that names the table.
-/

namespace SystemDynamics

namespace Curve

/-- The value at `x`, a fault if there are no points. -/
def valueAt (c : Curve Float) (x : Float) : Except Fault Float :=
  match c.value? x with
  | some y => .ok y
  | none => .error (.emptyTable c.name)

/-- How a curve shows in listings. -/
def display (c : Curve Float) : String :=
  "LookupTable(" ++ Text.quoted c.name ++ ", points=" ++ toString c.points.length ++ ")"

end Curve

namespace Surface

/-- The value at a place, a fault where there is none. -/
def valueAt (s : Surface Float) (x y : Float) : Except Fault Float :=
  match s.value x y with
  | .ok z => .ok z
  | .error .noPoints => .error (.emptyTable s.name)
  | .error (.missing x y) => .error (.missingPoint s.name x y)

/-- How a surface shows in listings. -/
def display (s : Surface Float) : String :=
  "LookupTable2D(" ++ Text.quoted s.name ++ ", grid=(" ++ toString s.xs.length ++ ", " ++
    toString s.ys.length ++ "))"

end Surface

end SystemDynamics
