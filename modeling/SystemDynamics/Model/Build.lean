import SystemDynamics.Model.Basic
/-!
# Building models

Content is added to a model piece by piece. Nothing that is wrong with a piece stops this: a flow
to a stock that is not there leads outside, a rate that is no expression is zero, and both are
reported. A formula may nest as deeply as its text is long; `Model.Limited` adds what has formulas
where that is not so.
-/

namespace SystemDynamics

namespace Model

/-- Detaches the flows from the stock that has a name. -/
def forgetStock (m : Model) (name : String) : Model :=
  { m with
    flows := m.flows.map fun f =>
      { f with source := f.source.forget name, target := f.target.forget name } }

/-- Adds a stock. One that has the name already is replaced, and its flows keep to the old. -/
def addStock (m : Model) (name : String) (stock : Stock) : Model :=
  let m := m.forgetStock name
  { m with
    stocks := m.stocks.insert name stock
    initial := m.initial.insert name stock.value }

/-- Takes a stock out of the model; its initial value stays on record. -/
def removeStock (m : Model) (name : String) : Model :=
  let m := m.forgetStock name
  { m with stocks := m.stocks.erase name }

/-- Sets the amount of a stock. -/
def setStock (m : Model) (name : String) (x : Float) : Model :=
  { m with stocks := m.stocks.modify name fun s => { s with value := x } }

def addConstant (m : Model) (name : String) (x : Float) : Model :=
  { m with constants := m.constants.insert name x }

def addCurve (m : Model) (name : String) (c : Curve Float) : Model :=
  { m with curves := m.curves.insert name c }

def addSurface (m : Model) (name : String) (s : Surface Float) : Model :=
  { m with surfaces := m.surfaces.insert name s }

def addGraph (m : Model) (name : String) (g : Graph) : Model :=
  { m with graphs := m.graphs.insert name g }

/-- Reads a formula for the model. If the text is no expression, that is reported. -/
def compile (m : Model) (text source : String) (purpose : Purpose) : Noted (Model × Formula) := do
  let (body, slots) := Formula.compile ⟨true, source⟩ text m.slots
  let m := { m with slots }
  let f : Formula := ⟨text, source, purpose, body⟩
  match body with
  | .ok _ => return (m, f)
  | .error e => return (← m.reportAtRest source ("Syntax error: " ++ e.message), f)

/-- Reads a formula for the model; a text that is no expression is the caller's concern. -/
def compileStrict (m : Model) (text source : String) (purpose : Purpose) :
    Model × Except SyntaxError Formula :=
  let (body, slots) := Formula.compile ⟨true, source⟩ text m.slots
  ({ m with slots }, body.map fun c => ⟨text, source, purpose, .ok c⟩)

/-- The names that stand for the outside. -/
def outsideNames : List String := ["source", "sink"]

/-- The end of a flow from how it is given. -/
def endpoint (m : Model) (flow : String) : EndpointSource → Noted (Model × Endpoint)
  | .outside => return (m, .outside)
  | .held stock => return (m, .stock stock)
  | .named name => do
    if name ∈ outsideNames then return (m, .outside)
    else if m.stocks.contains name then return (m, .stock name)
    else
      let m ← m.reportAtRest ("flow " ++ flow)
        ("unknown stock '" ++ name ++ "' treated as external")
      return (m, .outside)

/-- The stocks among the names of a rate. A constant hides a stock of its name. -/
def dependencies (m : Model) (names : List String) : List String :=
  names.filter fun n => m.stocks.contains n && !m.constants.contains n

/-- The second text unless the first says something. -/
def textOr : Option String → String → String
  | some "", s | none, s => s
  | some t, _ => t

/-- The rate of a flow, with the text that shows it and the stocks it reads. -/
def rate (m : Model) (flow : String) (rateText : Option String) :
    RateSource → Noted (Model × Except Fault (Rate × Option String × List String))
  | .text s => do
    let (m, f) ← m.compile s ("flow " ++ flow) .number
    return (m, .ok (.formula f, some (textOr rateText s), m.dependencies f.references))
  | .datum d => return (m, d.toReal.map fun x => (.fixed x, rateText, []))
  | .supplied s => return (m, .ok (.supplied s, rateText, []))

/-- Puts a flow into the model. One that leads from a stock to itself is reported. -/
def putFlow (m : Model) (name : String) (f : Flow) : Noted Model := do
  match f.isLoop, f.source.name? with
  | true, some stock =>
    Noted.log ⟨.debug, .model,
      "Flow " ++ name ++ " moves " ++ stock ++ " into itself; its net effect is zero"⟩
    let m ← m.reportAtRest ("flow " ++ name)
      ("from and to are both '" ++ stock ++ "'; net change is zero")
    return { m with flows := m.flows.insert name f }
  | _, _ => return { m with flows := m.flows.insert name f }

/-- Adds a flow. A rate that is no number is the caller's concern. -/
def addFlow (m : Model) (name : String) (source target : EndpointSource) (rate : RateSource)
    (rateText units : Option String) : Noted (Model × Except Fault Unit) := do
  let (m, source) ← m.endpoint name source
  let (m, target) ← m.endpoint name target
  match ← m.rate name rateText rate with
  | (m, .error e) => return (m, .error e)
  | (m, .ok (rate, rateText, dependencies)) =>
    return (← m.putFlow name { source, target, rate, rateText, units, dependencies }, .ok ())

/-- Lets a condition given as a text end the runs. It shows as the text `shown`, if that says
something. -/
def endWhen (m : Model) (text : String) (shown : Option String) : Noted Model := do
  let (m, f) ← m.compile text "terminate" .condition
  return { m with termination := some (.formula f), terminationText := some (textOr shown text) }

/-- Lets a condition that the caller computes end the runs, or none, under a text that shows it. -/
def endWhenSupplied (m : Model) (s : Option Supplied) (shown : Option String) : Model :=
  { m with termination := s.map .supplied, terminationText := shown }

end Model

end SystemDynamics
