import SystemDynamics.Model.Basic
import SystemDynamics.Model.Transfer
/-!
# Steps

A step first finds the amount that every flow moves, all from the stocks as they are; then it
moves the amounts, puts each stock back into its bounds, advances the clock, records a snapshot
and asks whether the run ends here. A model whose run has ended does not move any more until it
is reset. Failures are reported and count as no flow and no end.
-/

namespace SystemDynamics

/-- The size of a step: a finite number above zero. -/
structure StepSize where
  value : Float
  finite : value.isFinite = true
  positive : (0.0 < value) = true

theorem StepSize.one_finite : (1.0 : Float).isFinite = true := by decide

theorem StepSize.one_positive : ((0.0 : Float) < 1.0) = true := by decide

def StepSize.one : StepSize := ⟨1.0, one_finite, one_positive⟩

/-- The step size that a number is. -/
def StepSize.ofFloat (x : Float) : Except Fault StepSize :=
  if h : x.isFinite = true ∧ (0.0 < x) = true then .ok ⟨x, h.1, h.2⟩
  else .error (.badStepSize x)

namespace Model

def isTerminated (m : Model) : Bool := m.phase == .terminated

/-- The amount of a supplied rate, failures reported under the flow. -/
def suppliedAmount (m : Model) (name : String) (dt : Float) (s : Supplied) :
    Noted (Model × Float) := do
  match s.number with
  | .error e => return (← m.reportNow ("flow " ++ name) e.report, 0.0)
  | .ok x =>
    if x.isFinite then return (m, x * dt)
    else return (← m.reportNow ("flow " ++ name) ("non-finite rate " ++ exactText x), 0.0)

/-- The amount that a flow moves in a step. -/
def flowAmount (m : Model) (dt : Float) (name : String) (f : Flow) : Noted (Model × Float) := do
  match f.rate with
  | .fixed x => return (m, x * dt)
  | .supplied s => m.suppliedAmount name dt s
  | .formula g =>
    match ← m.evaluate g with
    | (m, .number x) => return (m, x * dt)
    | (m, .truth b) => return (m, (if b then 1.0 else 0.0) * dt)

/-- The transfers of a step, one for each flow, found in the order of the flows. -/
def transfersOf (dt : Float) : List (String × Flow) → Model →
    Noted (Model × List (Transfer Float))
  | [], m => return (m, [])
  | (name, f) :: rest, m => do
    let (m, amount) ← m.flowAmount dt name f
    let (m, others) ← transfersOf dt rest m
    return (m, ⟨f.source.account?, f.target.account?, amount⟩ :: others)

/-- The stocks with other amounts. -/
def withValues (stocks : Table Stock) (values : Table Float) : Table Stock :=
  stocks.mapWithName fun name s => { s with value := (values.get? name).getD s.value }

/-- Moves the amounts and puts the stocks back into their bounds. -/
def move (m : Model) (ts : List (Transfer Float)) : Model :=
  { m with
    stocks := (withValues m.stocks (Transfer.applyAll m.stockValues ts)).map Stock.constrain }

/-- Advances the clock by a step. -/
def tick (m : Model) (dt : Float) : Model :=
  { m with clock := { m.clock with time := m.clock.time + dt, step := m.clock.step + 1 } }

/-- Whether the condition that ends a run is met. -/
def endReached (m : Model) : Noted (Model × Bool) := do
  match m.termination with
  | none => return (m, false)
  | some (.supplied s) =>
    match s.truth with
    | .ok b => return (m, b)
    | .error e => return (← m.reportNow "terminate" e.report, false)
  | some (.formula f) =>
    match ← m.evaluate f with
    | (m, .truth b) => return (m, b)
    | (m, .number x) => return (m, !(x == 0.0))

/-- The step of a run that has not ended. -/
def advance (m : Model) (dt : StepSize) : Noted Model := do
  let m := { m with clock := { m.clock with dt := dt.value } }
  let (m, ts) ← transfersOf dt.value m.flows.entries m
  let m := ((m.move ts).tick dt.value).record
  Noted.announce (.step m.clock.time m.clock.step m.stockValues)
  let (m, reached) ← m.endReached
  if reached then
    Noted.log ⟨.info, .model, "Simulation terminated at t=" ++ messageText m.clock.time ++
      " after " ++ toString m.clock.step ++ " steps"⟩
    Noted.announce (.terminated m.clock.time m.clock.step)
    return { m with phase := .terminated }
  else
    return m

/-- One step, nothing once the run has ended. -/
def step (m : Model) (dt : StepSize) : Noted Model :=
  if m.isTerminated then pure m else m.advance dt

/-- So many steps, fewer if the run ends before; with the number of steps made. -/
def run (dt : StepSize) : Nat → Model → Noted (Model × Nat)
  | 0, m => return (m, 0)
  | n + 1, m => do
    if m.isTerminated then return (m, 0)
    else
      let m ← m.step dt
      (fun (m, taken) => (m, taken + 1)) <$> run dt n m

/-- Goes back to the initial amounts, with an empty memory and one snapshot. -/
def reset (m : Model) : Noted Model := do
  let m := { m with
    stocks := withValues m.stocks m.initial
    clock := .start
    phase := .running
    history := m.history.clear
    slots := m.slots.map Slot.clear }
  let m := m.record
  Noted.announce (.reset m.clock.time m.clock.step)
  return m

end Model

end SystemDynamics
