import SystemDynamics.Declaration.Reader
import SystemDynamics.Model.Build
/-!
# Loading models

A model is built from declarations: first everything but flows and conditions, then those, so
that they may name what is declared below them. A property that should be a constant and cannot
be evaluated is reported and replaced by its default.
-/

namespace SystemDynamics

namespace Model

/-- How a default shows in reports. -/
def defaultText : Option Float → String
  | none => "None"
  | some x => exactText x

/-- The constant that a property declares, the default if there is none or it cannot be
evaluated. -/
def constantOf (m : Model) (label : String) (default : Option Float) :
    Option PropertyValue → Noted (Model × Option Float)
  | none => return (m, default)
  | some (.number x) => return (m, some x)
  | some v => do
    match constantValue v.asText m.scope.constant? with
    | .ok x => return (m, some x)
    | .error e =>
      Noted.log ⟨.warning, .loading,
        "Failed to evaluate " ++ label ++ " = " ++ v.asText ++ ": " ++ e.message⟩
      let m ← m.reportAtRest label
        ("could not evaluate " ++ Text.quoted v.asText ++ ": " ++ e.message ++ "; using " ++
          defaultText default)
      return (m, default)

/-- The number if it is one and not zero, else zero, without a sign. -/
def orZero (x : Option Float) : Float :=
  match x with
  | some x => if x == 0.0 then 0.0 else x
  | none => 0.0

/-- The parts of a text that commas divide, without blanks around them and empty ones. -/
def listed : Option PropertyValue → List String
  | none | some (.number _) => []
  | some v =>
    ((Line.fields v.asText.toList).map Text.strip).filterMap fun part =>
      if part.isEmpty then none else some (String.ofList part)

/-- The points of a curve in a list of coordinates. -/
def curvePoints (points : List (List Float)) : List (Float × Float) :=
  points.filterMap fun
    | x :: y :: _ => some (x, y)
    | _ => none

/-- The points of a surface in a list of coordinates. -/
def surfacePoints (points : List (List Float)) : List (Float × Float × Float) :=
  points.filterMap fun
    | x :: y :: z :: _ => some (x, y, z)
    | _ => none

/-- The text of a property. -/
def textOf (d : Declaration) (key : String) : Option String :=
  (d.properties.get? key).map PropertyValue.asText

/-- The text of a property that says something. -/
def properText? (d : Declaration) (key : String) : Option String :=
  (textOf d key).filter (· ≠ "")

/-- The end of a flow that a property names. -/
def endOf (d : Declaration) (key : String) : EndpointSource :=
  match textOf d key with
  | none => .outside
  | some name => .named name

def loadConstant (m : Model) (d : Declaration) : Noted Model := do
  let (m, x) ← m.constantOf ("const " ++ d.name) (some 0.0) (d.properties.get? "value")
  return m.addConstant d.name (orZero x)

def loadStock (m : Model) (d : Declaration) : Noted Model := do
  let label := "stock " ++ d.name
  let (m, value) ← m.constantOf (label ++ ".initial") (some 0.0) (d.properties.get? "initial")
  let (m, least) ← m.constantOf (label ++ ".min") none (d.properties.get? "min")
  let (m, greatest) ← m.constantOf (label ++ ".max") none (d.properties.get? "max")
  return m.addStock d.name ⟨orZero value, least, greatest, textOf d "units"⟩

/-- The rate of a flow as it is declared, none standing for zero. -/
def rateOf (d : Declaration) : RateSource :=
  match d.properties.get? "rate" with
  | none => .datum (.real 0.0)
  | some (.number x) => .datum (.real x)
  | some v => .text v.asText

def loadFlow (m : Model) (d : Declaration) : Noted Model := do
  let (m, _) ← m.addFlow d.name (endOf d "from") (endOf d "to") (rateOf d) none (textOf d "units")
  return m

def loadTermination (m : Model) (d : Declaration) : Noted Model :=
  match textOf d "when" with
  | none => return m
  | some text => m.endWhen text none

def loadGraph (m : Model) (d : Declaration) : Model :=
  m.addGraph d.name {
    title := some ((properText? d "title").getD d.name)
    series := listed (d.properties.get? "variables")
    type := (properText? d "type").getD "line"
    yAxisLabel := textOf d "yAxisLabel"
    color := textOf d "color" }

/-- Adds what is declared. -/
def load (m : Model) (d : Declaration) : Noted Model :=
  match d.kind with
  | .const => m.loadConstant d
  | .stock => m.loadStock d
  | .flow => m.loadFlow d
  | .terminate => m.loadTermination d
  | .graph => return m.loadGraph d
  | .lookup => return m.addCurve d.name (.ofPoints d.name (curvePoints d.points))
  | .lookup2d => return m.addSurface d.name (.ofPoints d.name (surfacePoints d.points))

/-- Adds what is declared, in order. -/
def loadAll : List Declaration → Model → Noted Model
  | [], m => return m
  | d :: rest, m => do loadAll rest (← m.load d)

/-- Whether a declaration is loaded after the others. -/
def isDeferred (d : Declaration) : Bool := d.kind == .flow || d.kind == .terminate

/-- How much a model remembers. A model is only made with capacities that pass `Capacities.check`,
so what is said of all capacities is said of more than there are. -/
structure Capacities where
  history : Int
  diagnostics : Int
  deriving DecidableEq

def Capacities.default : Capacities := ⟨History.defaultCapacity, Diagnostics.defaultCapacity⟩

/-- Capacities that a model can be made with: none is greater than any size can be. -/
def Capacities.check (history diagnostics : Int) : Except Fault Capacities := do
  return ⟨← (Datum.whole history).toCapacity, ← (Datum.whole diagnostics).toCapacity⟩

/-- The model that declarations make, with one snapshot, when there is no limit to how deeply the
formulas in them may nest. `ofDeclarationsWithin` has one. -/
def ofDeclarations (c : Capacities) (ds : List Declaration) : Noted Model := do
  let m := empty c.history (.withCapacity c.diagnostics .warning)
  let m ← loadAll (ds.filter (!isDeferred ·)) m
  let m ← loadAll (ds.filter isDeferred) m
  return m.record

/-- The model that a text declares, when there is no limit to how deeply the formulas in it may
nest. The programs here make it by `ofTextWithin`, which comes to the same or to a failure. -/
def ofText (c : Capacities) (text : String) : Noted Model := do
  ofDeclarations c (← Declaration.ofText text)

end Model

end SystemDynamics
