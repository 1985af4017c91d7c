import SystemDynamics.Diagnostics
import SystemDynamics.Expr.Formula
import SystemDynamics.History
import SystemDynamics.Notice
/-!
# Models

A model has stocks, which hold amounts, and flows, which move amounts between stocks or between a
stock and the outside, at a rate per unit of time. Beside them stand constants, curves and
surfaces that rates may read, graphs for whoever shows the model, a condition that ends a run, the
clock, the delay arena, the history and the diagnostics.
-/

namespace SystemDynamics

/-- An amount, the bounds it is kept within, and its unit. -/
structure Stock where
  value : Float
  least : Option Float
  greatest : Option Float
  units : Option String
  deriving DecidableEq

/-- The amount moved into the bounds, the lower one first. -/
def Stock.constrain (s : Stock) : Stock :=
  let raised :=
    match s.least with
    | some low => if s.value < low then low else s.value
    | none => s.value
  let lowered :=
    match s.greatest with
    | some high => if high < raised then high else raised
    | none => raised
  { s with value := lowered }

/-- How the end of a flow is given: as the outside, by a name, or as a stock of the model whatever
its name. -/
inductive EndpointSource where
  | outside
  | named (name : String)
  | held (stock : String)
  deriving DecidableEq

/-- Where a flow begins or ends. -/
inductive Endpoint where
  | outside
  | stock (name : String)
  /-- A stock that has been removed from the model, or replaced, after the flow was added. -/
  | gone (name : String)
  deriving DecidableEq

namespace Endpoint

/-- The stock of the model that the flow changes here. -/
def account? : Endpoint → Option String
  | stock name => some name
  | outside | gone _ => none

/-- The name of the stock, also of one that is gone. -/
def name? : Endpoint → Option String
  | outside => none
  | stock name | gone name => some name

/-- The endpoint once the stock of this name is not the one it was. -/
def forget (name : String) : Endpoint → Endpoint
  | stock n => if n = name then gone n else stock n
  | e => e

end Endpoint

/-- A value that the caller computes, known as what it does: fail or give a datum. -/
inductive Supplied where
  | raises (text : String)
  | returns (value : Datum)

namespace Supplied

/-- The value as a rate. -/
def number : Supplied → Except Fault Float
  | raises text => .error (.raised text)
  | returns d => d.toReal

/-- The value as a condition. -/
def truth : Supplied → Except Fault Bool
  | raises text => .error (.raised text)
  | returns d => .ok d.holds

end Supplied

/-- How a rate is given: as a text, a number, or by the caller's own computing. -/
inductive RateSource where
  | text (s : String)
  | datum (d : Datum)
  | supplied (s : Supplied)

/-- How fast a flow moves. -/
inductive Rate where
  | fixed (x : Float)
  | formula (f : Formula)
  | supplied (s : Supplied)

structure Flow where
  source : Endpoint
  target : Endpoint
  rate : Rate
  rateText : Option String
  units : Option String
  /-- The stocks that the rate reads, ascending. -/
  dependencies : List String

/-- Whether the flow leads from a stock to the same stock. -/
def Flow.isLoop (f : Flow) : Bool := f.source.name?.isSome && f.source == f.target

/-- When a run ends. -/
inductive Condition where
  | formula (f : Formula)
  | supplied (s : Supplied)

/-- A chart that a model asks for. -/
structure Graph where
  title : Option String
  series : List String
  type : String
  yAxisLabel : Option String
  color : Option String
  deriving DecidableEq

inductive Phase where
  | running | terminated
  deriving DecidableEq

def Phase.name : Phase → String
  | running => "running"
  | terminated => "terminated"

structure Model where
  stocks : Table Stock
  /-- The values that a reset gives back to the stocks. -/
  initial : Table Float
  flows : Table Flow
  constants : Table Float
  curves : Table (Curve Float)
  surfaces : Table (Surface Float)
  graphs : Table Graph
  termination : Option Condition
  terminationText : Option String
  clock : Clock
  phase : Phase
  slots : List Slot
  history : History
  diagnostics : Diagnostics

/-- The clock before the first step. -/
def Clock.start : Clock := ⟨0.0, 1.0, 0⟩

namespace Model

/-- A model without any content. -/
def empty (historyCapacity : Int) (diagnostics : Diagnostics) : Model where
  stocks := .empty
  initial := .empty
  flows := .empty
  constants := .empty
  curves := .empty
  surfaces := .empty
  graphs := .empty
  termination := none
  terminationText := none
  clock := .start
  phase := .running
  slots := []
  history := .withCapacity historyCapacity
  diagnostics := diagnostics

/-- What the names of an expression stand for in the model. -/
def scope (m : Model) : Scope where
  clock := some m.clock
  constant? name := (m.constants.get? name).map (.ofNamed name)
  stock? name := (m.stocks.get? name).map (·.value)
  curve? := m.curves.get?
  surface? := m.surfaces.get?

def stockValues (m : Model) : Table Float := m.stocks.map (·.value)

/-- Reports failures. -/
def reportAll (m : Model) (ds : List Diagnostic) : Noted Model :=
  let (diagnostics, entries) := m.diagnostics.reportAll ds
  .logged { m with diagnostics } entries

/-- Reports a failure at the model's time. -/
def reportNow (m : Model) (source message : String) : Noted Model :=
  m.reportAll [⟨source, message, some m.clock.time⟩]

/-- Reports a failure of the model's description, at no time. -/
def reportAtRest (m : Model) (source message : String) : Noted Model :=
  m.reportAll [⟨source, message, none⟩]

/-- Takes over what an evaluation leaves in its memory. -/
def remember (m : Model) (memory : Memory) : Noted Model :=
  { m with slots := memory.slots }.reportAll memory.reports

/-- The memory that an evaluation begins with. -/
def memory (m : Model) : Memory := ⟨m.slots, []⟩

/-- The value of a formula. -/
def evaluate (m : Model) (f : Formula) : Noted (Model × Answer) := do
  let (answer, memory) := f.evaluate m.scope m.memory
  return (← m.remember memory, answer)

/-- Carries out an evaluation in the model. -/
def perform {α : Type} (m : Model) (e : Evaluation α) : Noted (Model × Except Fault α) := do
  let (r, memory) := e.run m.memory
  return (← m.remember memory, r)

/-- Adds a snapshot of the stocks to the history. -/
def record (m : Model) : Model :=
  { m with history := m.history.push ⟨m.clock.time, m.stockValues⟩ }

/-- The model in one line. -/
def display (m : Model) : String :=
  "Model(stocks=" ++ toString m.stocks.size ++ ", flows=" ++ toString m.flows.size ++
    ", time=" ++ messageText m.clock.time ++ ", step=" ++ toString m.clock.step ++
    ", state=" ++ m.phase.name ++ ")"

end Model

end SystemDynamics
