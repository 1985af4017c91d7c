import SystemDynamics.Expr.Code
import SystemDynamics.Lookup
import SystemDynamics.Diagnostics
/-!
# Evaluating expressions

An expression is evaluated in a scope: what its names and tables stand for, and the clock, if a
model is behind it. Evaluating reads the scope and changes only a memory, which holds the slots
of the delay calls and the failures of table lookups, whose value is then zero. Any other failure
ends the evaluation and leaves what the memory holds by then.
-/

namespace SystemDynamics

/-- The time of a model, the size of the step under way, and the number of steps made. -/
structure Clock where
  time : Float
  dt : Float
  step : Nat
  deriving DecidableEq

/-- What the names of an expression stand for. -/
structure Scope where
  clock : Option Clock
  constant? : String → Option Value
  stock? : String → Option Float
  curve? : String → Option (Curve Float)
  surface? : String → Option (Surface Float)

namespace Scope

/-- A scope of constants alone. -/
def ofConstants (constant? : String → Option Value) : Scope :=
  ⟨none, constant?, fun _ => none, fun _ => none, fun _ => none⟩

/-- The circle number. -/
def circle : Float := 3.141592653589793

/-- The base of the natural logarithm. -/
def base : Float := 2.718281828459045

/-- The names that always have the same value. -/
def universal? : String → Option Float
  | "PI" => some circle
  | "E" => some base
  | _ => none

/-- The names that a clock gives a value. -/
def ofClock? (c : Clock) : String → Option Float
  | "TIME" | "$time" => some c.time
  | "dt" => some c.dt
  | "$step" => some (Float.ofNat c.step)
  | _ => none

/-- The value of a name: the universal names come first, then those of the clock, the constants
and the stocks. -/
def resolve (s : Scope) (name : String) : Except Fault Value :=
  match universal? name, s.clock.bind (ofClock? · name), s.constant? name, s.stock? name with
  | some x, _, _, _ => .ok (.real x)
  | none, some x, _, _ => .ok (.real x)
  | none, none, some v, _ => .ok v
  | none, none, none, some x => .ok (.ofNamed name x)
  | none, none, none, none => .error (.unknownName name)

def time? (s : Scope) : Option Float := s.clock.map (·.time)

end Scope

/-- What evaluating may change. -/
structure Memory where
  slots : List Slot
  /-- Failures to be reported, in order. -/
  reports : List Diagnostic

namespace Memory

def report (m : Memory) (d : Diagnostic) : Memory := { m with reports := m.reports ++ [d] }

end Memory

/-- A computation that may fail and keeps its memory if it does. -/
abbrev Evaluation := ExceptT Fault (StateM Memory)

namespace Evaluation

/-- An outcome that needed no memory. -/
def outcome {α : Type} (r : Except Fault α) : Evaluation α := ExceptT.mk (pure r)

/-- Reports a failed lookup, whose value is zero. -/
def failLookup (source message : String) (time : Option Float) : Evaluation Float := do
  modify (·.report ⟨source, message, time⟩)
  return 0.0

/-- The number that a table gives, a failed lookup if it gives none. -/
def orReport (source : String) (time : Option Float) : Except Fault Float → Evaluation Float
  | .ok y => return y
  | .error e => failLookup source e.message time

/-- The value of a curve. An argument that is no number is a fault only if there are points. -/
def onCurve (time : Option Float) (c : Curve Float) (x : Except Fault Float) :
    Evaluation Float := do
  if c.points.isEmpty then orReport "LOOKUP" time (.error (.emptyTable c.name))
  else orReport "LOOKUP" time (c.valueAt (← outcome x))

/-- The value of a curve by its name. -/
def lookup (s : Scope) (x : Except Fault Float) (name : String) : Evaluation Float :=
  match s.curve? name with
  | none => failLookup "LOOKUP" ("unknown lookup table '" ++ name ++ "'") s.time?
  | some c => onCurve s.time? c x

/-- Values taken two by two, as points. -/
def points : List Value → Except Fault (List (GivenPoint Float))
  | v :: w :: rest => do
    let x ← v.toReal
    let y ← w.toReal
    return ⟨x, y, v.origin?⟩ :: (← points rest)
  | _ => .ok []

/-- The value of a curve whose points are given with the call. -/
def inlineLookup (time : Option Float) (x : Except Fault Float)
    (points : Except Fault (List (GivenPoint Float))) (label : String) : Evaluation Float := do
  onCurve time (Curve.ofGiven label (← outcome points)) x

/-- The value of a surface. Arguments that are no numbers are a fault only if there are points. -/
def onSurface (time : Option Float) (s : Surface Float) (x y : Except Fault Float) :
    Evaluation Float := do
  if s.points.isEmpty then orReport "LOOKUP2D" time (.error (.emptyTable s.name))
  else
    let x ← outcome x
    let y ← outcome y
    orReport "LOOKUP2D" time (s.valueAt x y)

/-- The value of a surface by its name. -/
def surfaceLookup (s : Scope) (x y : Except Fault Float) (name : String) : Evaluation Float :=
  match s.surface? name with
  | none => failLookup "LOOKUP2D" ("unknown lookup table '" ++ name ++ "'") s.time?
  | some t => onSurface s.time? t x y

/-- The output of a delay call. Its slot is in use from here on, whatever comes of it. -/
def delay (clock : Option Clock) (kind : DelayKind) (slot : Nat)
    (value parameter : Except Fault Float) : Evaluation (Output Float) := do
  match clock, (← get).slots[slot]? with
  | some c, some place =>
    let place := place.wake
    modify fun m => { m with slots := m.slots.set slot place }
    let (state, output) :=
      kind.advance c.time c.dt place.current (← outcome value) (← outcome parameter)
    modify fun m => { m with slots := m.slots.set slot { place with state := some state } }
    outcome output
  | _, _ => throw .noSuchElement

end Evaluation

namespace Code

open Evaluation

mutual

/-- The value of an expression. The operands of an operator and the arguments of a function are
evaluated from the left; `&&`, `||` and a choice evaluate only what they need, and give the value
of the operand that decides. -/
def eval (s : Scope) : Code → Evaluation Value
  | number x => return .real x
  | name n => outcome (s.resolve n)
  | unary op x => return op.apply (← eval s x)
  | binary op x y => do
    let v ← eval s x
    let w ← eval s y
    outcome (op.apply v w)
  | logical op x y => do
    let v ← eval s x
    match op, v.holds with
    | .and, true | .or, false => eval s y
    | _, _ => return v
  | choice c x y => do
    if (← eval s c).holds then eval s x else eval s y
  | math f x => do outcome (f.apply (← eval s x))
  | power x y => do
    let v ← eval s x
    let w ← eval s y
    outcome (SystemDynamics.power v w)
  | extremum e x xs => do
    let v ← eval s x
    let vs ← evalAll s xs
    return e.choose v vs
  | delay kind slot x y => do
    let v ← eval s x
    let w ← eval s y
    match ← Evaluation.delay s.clock kind slot v.toReal w.toReal with
    | .input => outcome v.asReal
    | .computed y => return .real y
  | lookup x table => do
    let v ← eval s x
    return .real (← Evaluation.lookup s v.toReal table)
  | inlineLookup x coordinates label => do
    let v ← eval s x
    let vs ← evalAll s coordinates
    return .real (← Evaluation.inlineLookup s.time? v.toReal (points vs) label)
  | surfaceLookup x y table => do
    let v ← eval s x
    let w ← eval s y
    return .real (← Evaluation.surfaceLookup s v.toReal w.toReal table)

/-- The values of expressions, one after the other. -/
def evalAll (s : Scope) : List Code → Evaluation (List Value)
  | [] => return []
  | x :: xs => do
    let v ← eval s x
    let vs ← evalAll s xs
    return v :: vs

end

/-- The value of an expression as a finite number. -/
def evalNumber (s : Scope) (c : Code) : Evaluation Float := do
  let x ← outcome (← c.eval s).toReal
  if x.isFinite then return x else throw (.nonFinite x)

/-- Whether the value of an expression counts as true; what is no number does not. -/
def evalTruth (s : Scope) (c : Code) : Evaluation Bool := do
  match ← c.eval s with
  | .undefined _ => return false
  | .real x => return !x.isNaN && (Value.real x).holds
  | v => return v.holds

end Code

end SystemDynamics
