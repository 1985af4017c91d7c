import SystemDynamics.Delay.Arena
import SystemDynamics.Expr.Value
/-!
# Delays of whole and real numbers

A delay can be fed whole numbers of any size beside real ones. Differences of whole numbers and
comparisons are then exact; samples are settled as reals before a mean is taken of them or a line
drawn through them. A whole number that is too large for this is a fault of the call, which keeps
the sample.
-/

namespace SystemDynamics

/-- A number that is whole or real, or the fault that came in its place. -/
structure Measure where
  outcome : Except Fault Value

namespace Measure

def of (v : Value) : Measure := ⟨.ok v⟩

/-- The fault that came in the place of the number. -/
def fault? (m : Measure) : Option Fault :=
  match m.outcome with
  | .ok _ => none
  | .error e => some e

/-- The result of an operation on two numbers. -/
def combine (f : Value → Value → Except Fault Value) (a b : Measure) : Measure :=
  ⟨do
    let v ← a.outcome
    let w ← b.outcome
    f v w⟩

/-- Whether two numbers compare in a way that counts. -/
def compares (counts : Ordering → Bool) (a b : Measure) : Bool :=
  match a.outcome, b.outcome with
  | .ok v, .ok w => (v.compare? w).any counts
  | _, _ => false

/-- The quotient; of real numbers also by zero. -/
def quotient (v w : Value) : Except Fault Value :=
  match v.whole?, w.whole? with
  | some _, some _ => v.divide w
  | _, _ => return .real ((← v.toReal) / (← w.toReal))

/-- Whether a test of real numbers holds; `otherwise` for what is no real number. -/
def testReal (test : Float → Bool) (otherwise : Bool) (a : Measure) : Bool :=
  match a.outcome with
  | .ok (.real x) => test x
  | _ => otherwise

instance : Scalar Measure where
  add := combine fun v w => v.arithmetic (· + ·) (· + ·) w
  sub := combine fun v w => v.arithmetic (· - ·) (· - ·) w
  mul := combine fun v w => v.arithmetic (· * ·) (· * ·) w
  div := combine quotient
  neg a := ⟨a.outcome.map UnaryOp.negate.apply⟩
  ofNat n := of (.real (Float.ofNat n))
  lt := compares (· == .lt)
  le := compares (· != .gt)
  eq := compares (· == .eq)
  isNaN := testReal Float.isNaN false
  isFinite := testReal Float.isFinite true
  settle a := ⟨do return .real (← (← a.outcome).toReal)⟩

/-- The bell curve of a number. -/
def bell (a : Measure) : Measure := ⟨do return .real (← (← a.outcome).toReal).exp⟩

end Measure

namespace DelayKind

/-- The least whole number that lists of samples can hold, and the first that they cannot. -/
def wholeRange : Int × Int := (-0x8000000000000000, 0x10000000000000000)

/-- Whether a sample between two of which a line is drawn can be held. -/
def isHeld (m : Measure) : Bool :=
  match m.outcome with
  | .ok (.whole n) => wholeRange.1 ≤ n && n < wholeRange.2
  | _ => true

/-- The output of a delay at a time, and what it remembers from then on. -/
def advanceMixed (kind : DelayKind) (time dt : Measure) (s : DelayState Measure)
    (value parameter : Measure) : DelayState Measure × Except Fault Measure :=
  let added := s.add time value
  let reach : Measure :=
    match kind with
    | smooth => time - DelayState.smoothRetention * parameter
    | transport => time - parameter
    | gradual => time - DelayState.gradualRetention * parameter
  let isDelayed := !Scalar.le parameter (Scalar.ofNat 0)
  match if isDelayed then reach.fault? else none with
  | some e => (added, .error e)
  | none =>
    let (after, output) : DelayState Measure × Except Fault (Output Measure) :=
      match kind with
      | smooth =>
        let (after, y) := s.smooth value parameter time dt
        (after, .ok y)
      | transport =>
        match s.transport value parameter time with
        | (after, some y) =>
          let isComputed := match y with
            | .input => false
            | .computed _ => true
          if isComputed && (after.samples.take 2).any (!isHeld ·.2) then
            (after, .error .uncountableSample)
          else (after, .ok y)
        | (after, none) => (after, .error .noSuchSample)
      | gradual =>
        let (after, y) := DelayState.gradual Measure.bell s value parameter time
        (after, .ok y)
    match output with
    | .error e => (after, .error e)
    | .ok y =>
      let y := y.value value
      match y.fault? with
      | some e => ({ after with smoothed := s.smoothed }, .error e)
      | none => (after, .ok y)

end DelayKind

end SystemDynamics
