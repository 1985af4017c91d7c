import SystemDynamics.Model.Step
/-!
# Running in batches

A long run may be cut into batches, so that whoever watches it can look at the model in between.
The batches make the same steps as one run.
-/

namespace SystemDynamics

namespace Model

/-- The size of the batches where none is set: a hundredth of the steps, at least one. -/
def defaultBatchSize (steps : Int) : Int := max 1 (steps.fdiv 100)

/-- The size of the batches of a run. A set size of zero counts as none. -/
def batchSize (size : Option Int) (steps : Nat) : Int :=
  match size with
  | none | some 0 => defaultBatchSize steps
  | some n => n

/-- What a run in batches has done: the model, the steps made, and the counts of steps that were
seen after the batches. -/
structure Batches where
  model : Model
  completed : Nat
  seen : List Nat

/-- Whether another batch follows. -/
def Batches.isOpen (b : Batches) (steps : Nat) : Bool :=
  decide (b.completed < steps) && !b.model.isTerminated

/-- The steps of the next batch. -/
def Batches.chunk (b : Batches) (size : Int) (steps : Nat) : Int :=
  min size ((steps : Int) - b.completed)

/-- One batch, and whether it fell short. -/
def Batches.next (b : Batches) (dt : StepSize) (size : Int) (steps : Nat) :
    Noted (Batches × Bool) := do
  let chunk := b.chunk size steps
  let (m, taken) ← b.model.run dt chunk.toNat
  let completed := b.completed + taken
  return (⟨m, completed, b.seen ++ [completed]⟩, decide ((taken : Int) < chunk))

end Model

/-- Batches until the steps are made, the run ends, or a batch falls short. Batches of a size below
zero make no steps and never fall short: then there is no end, and no result. -/
def Noted.batchesFrom (dt : StepSize) (size : Int) (steps : Nat) (b : Noted Model.Batches) :
    Option (Noted Model.Batches) :=
  if b.result.isOpen steps then
    let next := b >>= fun b => b.next dt size steps
    if next.result.2 then some (Prod.fst <$> next)
    else (Prod.fst <$> next) |>.batchesFrom dt size steps
  else some b
partial_fixpoint

namespace Model

/-- So many steps in batches. A run without an end stands for no batches. -/
def runBatched (m : Model) (dt : StepSize) (size : Option Int) (steps : Nat) : Noted Batches :=
  (Noted.batchesFrom dt (batchSize size steps) steps (pure ⟨m, 0, []⟩)).getD (pure ⟨m, 0, []⟩)

/-- The number of steps that a datum asks for; none if it is below zero. -/
def stepCount (d : Datum) : Except Fault Nat := d.toWhole.map Int.toNat

/-- The step size that a datum asks for. -/
def stepSize (d : Datum) : Except Fault StepSize := do StepSize.ofFloat (← d.toReal)

/-- A run asked for by data. The step size counts only if a step is made. -/
def runWith (m : Model) (steps dt : Datum) : Except Fault (Noted (Model × Nat)) := do
  let n ← stepCount steps
  if n = 0 || m.isTerminated then return pure (m, 0)
  else return m.run (← stepSize dt) n

/-- A run in batches asked for by data. -/
def runBatchedWith (m : Model) (steps dt : Datum) (size : Option Int) :
    Except Fault (Noted Batches) := do
  let n ← stepCount steps
  if n = 0 || m.isTerminated then return pure ⟨m, 0, []⟩
  else if batchSize size n < 0 then return m.runBatched .one size n
  else return m.runBatched (← stepSize dt) size n

end Model

end SystemDynamics
