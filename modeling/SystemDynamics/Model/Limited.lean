import SystemDynamics.Model.Load
/-!
# Building models within a limit

What `Model.Build` and `Model.Load` do, when reading a text may open so many calls. A text that
takes more is the caller's concern: the slots that it has claimed stay claimed, and nothing that
comes after it is added. Constants need no such form, for a constant that cannot be evaluated, for
whatever reason, has a default.
-/

namespace SystemDynamics

namespace Model

/-- Reads a formula for the model. If the text is no expression, that is reported. -/
def compileWithin (calls : Nat) (m : Model) (text source : String) (purpose : Purpose) :
    Noted (Model × Except Fault Formula) := do
  let (body, slots) := Formula.compileWithin calls ⟨true, source⟩ text m.slots
  let m := { m with slots }
  match body with
  | .error e => return (m, .error e)
  | .ok (.ok c) => return (m, .ok ⟨text, source, purpose, .ok c⟩)
  | .ok (.error e) =>
    let m ← m.reportAtRest source ("Syntax error: " ++ e.message)
    return (m, .ok ⟨text, source, purpose, .error e⟩)

/-- Reads a formula for the model; whatever is wrong with the text is the caller's concern. -/
def compileStrictWithin (calls : Nat) (m : Model) (text source : String) (purpose : Purpose) :
    Model × Except Fault Formula :=
  let (body, slots) := Formula.compileWithin calls ⟨true, source⟩ text m.slots
  let m := { m with slots }
  match body with
  | .error e => (m, .error e)
  | .ok (.ok c) => (m, .ok ⟨text, source, purpose, .ok c⟩)
  | .ok (.error e) => (m, .error (.badExpression e))

/-- The rate of a flow, with the text that shows it and the stocks it reads. -/
def rateWithin (calls : Nat) (m : Model) (flow : String) (rateText : Option String) :
    RateSource → Noted (Model × Except Fault (Rate × Option String × List String))
  | .text s => do
    let (m, r) ← m.compileWithin calls s ("flow " ++ flow) .number
    return (m, r.map fun f =>
      (.formula f, some (textOr rateText s), m.dependencies f.references))
  | r => m.rate flow rateText r

/-- Adds a flow. A rate that is no number, or that cannot be read, is the caller's concern. -/
def addFlowWithin (calls : Nat) (m : Model) (name : String) (source target : EndpointSource)
    (rate : RateSource) (rateText units : Option String) : Noted (Model × Except Fault Unit) := do
  let (m, source) ← m.endpoint name source
  let (m, target) ← m.endpoint name target
  match ← m.rateWithin calls name rateText rate with
  | (m, .error e) => return (m, .error e)
  | (m, .ok (rate, rateText, dependencies)) =>
    return (← m.putFlow name { source, target, rate, rateText, units, dependencies }, .ok ())

/-- Lets a condition given as a text end the runs. One that cannot be read is the caller's
concern. -/
def endWhenWithin (calls : Nat) (m : Model) (text : String) (shown : Option String) :
    Noted (Model × Except Fault Unit) := do
  match ← m.compileWithin calls text "terminate" .condition with
  | (m, .error e) => return (m, .error e)
  | (m, .ok f) =>
    let m := { m with
      termination := some (.formula f), terminationText := some (textOr shown text) }
    return (m, .ok ())

/-- The model that a declaration is added to, or why it cannot be added. -/
def loadWithin (calls : Nat) (m : Model) (d : Declaration) : Noted (Except Fault Model) :=
  match d.kind with
  | .flow => do
    let (m, r) ← m.addFlowWithin calls d.name (endOf d "from") (endOf d "to") (rateOf d) none
      (textOf d "units")
    return r.map fun _ => m
  | .terminate =>
    match textOf d "when" with
    | none => return .ok m
    | some text => do
      let (m, r) ← m.endWhenWithin calls text none
      return r.map fun _ => m
  | _ => .ok <$> m.load d

/-- Adds what is declared, in order, up to what cannot be added. -/
def loadAllWithin (calls : Nat) : List Declaration → Model → Noted (Except Fault Model)
  | [], m => return .ok m
  | d :: rest, m => do
    match ← m.loadWithin calls d with
    | .ok m => loadAllWithin calls rest m
    | .error e => return .error e

/-- The model that declarations make, with one snapshot. -/
def ofDeclarationsWithin (calls : Nat) (c : Capacities) (ds : List Declaration) :
    Noted (Except Fault Model) := do
  let m := empty c.history (.withCapacity c.diagnostics .warning)
  let m ← loadAll (ds.filter (!isDeferred ·)) m
  match ← loadAllWithin calls (ds.filter isDeferred) m with
  | .ok m => return .ok m.record
  | .error e => return .error e

/-- The model that a text declares, if the rates and conditions in it can be read. -/
def ofTextWithin (calls : Nat) (c : Capacities) (text : String) : Noted (Except Fault Model) := do
  ofDeclarationsWithin calls c (← Declaration.ofText text)

end Model

end SystemDynamics
