import SystemDynamics.Model.Data
/-!
# Lookups and delays called directly

The tables and delays of a model can be used without an expression. Failed lookups are reported
and are zero, as they are in an expression; a number that is none is the caller's fault.
-/

namespace SystemDynamics

namespace Model

/-- The value of a curve of the model. -/
def lookup (m : Model) (x : Datum) (curve : String) : Noted (Model × Except Fault Float) :=
  m.perform (Evaluation.lookup m.scope x.toReal curve)

/-- The value of the curve through points that are given with the call. -/
def inlineLookup (m : Model) (x points : Datum) (label : String) :
    Noted (Model × Except Fault Float) :=
  m.perform (Evaluation.inlineLookup (some m.clock.time) x.toReal points.curvePoints label)

/-- The value of a surface of the model. -/
def surfaceLookup (m : Model) (x y : Datum) (surface : String) :
    Noted (Model × Except Fault Float) :=
  m.perform (Evaluation.surfaceLookup m.scope x.toReal y.toReal surface)

/-- Claims a slot and gives its number. -/
def allocate (m : Model) (kind label : String) : Model × Nat :=
  ({ m with slots := m.slots ++ [.claimed kind label] }, m.slots.length)

/-- The slot that an index means, counted from the end if it is negative. -/
def slotAt (m : Model) (index : Datum) : Except Fault Nat := do
  match Recent.at? (List.range m.slots.length) (← index.toIndex .badElementIndex) with
  | some i => return i
  | none => throw .noSuchElement

/-- The output of a delay in a slot. -/
def delay (m : Model) (kind : DelayKind) (value parameter slot : Datum) :
    Noted (Model × Except Fault Float) :=
  match m.slotAt slot with
  | .error e => return (m, .error e)
  | .ok i => m.perform do
    let x := value.toReal
    let delayed ← Evaluation.delay (some m.clock) kind i x parameter.toReal
    return delayed.value (← Evaluation.outcome x)

end Model

end SystemDynamics
