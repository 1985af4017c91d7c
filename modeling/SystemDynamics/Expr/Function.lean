import SystemDynamics.Expr.Value
/-!
# Functions

The functions of an expression that depend on nothing but their arguments. A result that is no
number, or infinite, where the arguments are numbers and finite, is a fault.
-/

namespace SystemDynamics

/-- The functions of one argument. -/
inductive MathFunction where
  | sin | cos | tan | sqrt | abs | floor | ceil | round | exp | log
  deriving DecidableEq

namespace MathFunction

/-- The function of a name. -/
def ofName? : String → Option MathFunction
  | "sin" => some sin
  | "cos" => some cos
  | "tan" => some tan
  | "sqrt" => some sqrt
  | "abs" => some abs
  | "floor" => some floor
  | "ceil" => some ceil
  | "round" => some round
  | "exp" => some exp
  | "log" => some log
  | _ => none

/-- The result of a real function at `x`, with the fault that an overflow means for it. -/
def checked (overflow : Fault) (f : Float → Float) (x : Float) : Except Fault Value :=
  let y := f x
  if y.isNaN && !x.isNaN then .error .outsideDomain
  else if y.isInf && x.isFinite then .error overflow
  else .ok (.real y)

/-- Rounds a real number to a whole one. -/
def toWhole (choose : Binary → Int) (x : Float) : Except Fault Int :=
  match Binary.ofFloat? x with
  | some b => .ok (choose b)
  | none => .error (if x.isNaN then .wholeOfNaN else .wholeOfInfinity)

/-- The logarithm of a positive whole number. One that is too large for a real number is first
divided by a power of two. -/
def logWhole (n : Nat) : Float :=
  match nearestWhole? n with
  | some x => x.log
  | none =>
    let shift := n.log2 + 1
    (nearest n (Nat.pow 2 shift)).log + Float.log 2.0 * Float.ofNat shift

/-- What the function yields. `floor` and `ceil` yield whole numbers, `abs` keeps them, `round`
goes half up and yields a real one. -/
def apply (f : MathFunction) (v : Value) : Except Fault Value :=
  match f, v.whole? with
  | floor, some n | ceil, some n => .ok (.whole n)
  | abs, some n => .ok (.whole n.natAbs)
  | log, some n => if n ≤ 0 then .error .outsideDomain else .ok (.real (logWhole n.toNat))
  | floor, none => do return .whole (← toWhole Binary.floor (← v.toReal))
  | ceil, none => do return .whole (← toWhole Binary.ceil (← v.toReal))
  | abs, none => do return .real (← v.toReal).abs
  | log, none => do checked .outsideDomain Float.log (← v.toReal)
  | round, _ => do
    let n ← toWhole Binary.floor ((← v.toReal) + 0.5)
    return .real (← realOfWhole n)
  | sin, _ => do checked .outsideDomain Float.sin (← v.toReal)
  | cos, _ => do checked .outsideDomain Float.cos (← v.toReal)
  | tan, _ => do checked .outsideDomain Float.tan (← v.toReal)
  | sqrt, _ => do checked .outsideDomain Float.sqrt (← v.toReal)
  | exp, _ => do checked .resultTooLarge Float.exp (← v.toReal)

end MathFunction

/-- A power. Of zero to a negative exponent it is undefined, of other finite numbers it may be
too large. -/
def power (v w : Value) : Except Fault Value := do
  let x ← v.toReal
  let y ← w.toReal
  let z := x.pow y
  if x.isFinite && y.isFinite && !z.isFinite then
    throw (if z.isNaN || x == 0.0 then .outsideDomain else .resultTooLarge)
  else
    return .real z

/-- The least or the greatest of values. -/
inductive Extremum where
  | least | greatest
  deriving DecidableEq

namespace Extremum

def ofName? : String → Option Extremum
  | "min" => some least
  | "max" => some greatest
  | _ => none

/-- Whether a value is to replace the one chosen so far; an equal one is not. -/
def better : Extremum → Value → Value → Bool
  | least, v, chosen => v.compare? chosen == some .lt
  | greatest, v, chosen => v.compare? chosen == some .gt

/-- The first of the best values. -/
def choose (e : Extremum) (first : Value) (rest : List Value) : Value :=
  rest.foldl (fun chosen v => if e.better v chosen then v else chosen) first

end Extremum

end SystemDynamics
