import SystemDynamics.Fault
import SystemDynamics.Expr.Tree
/-!
# Values and operators

An expression yields a truth value, a whole number of any size, or a real number. Truth values
count as one and zero. Arithmetic on whole numbers is exact, also their comparison with real
numbers; any other mixture is computed in real numbers. A name may stand for a real that is no
number; as long as such a value is only passed on, it is known where it came from.
-/

namespace SystemDynamics

inductive Value where
  | truth (b : Bool)
  | whole (n : Int)
  | real (x : Float)
  /-- A real that is no number, by the name that stands for it. -/
  | undefined (origin : String)

namespace Value

/-- The real that is no number. -/
def notANumber : Float := 0.0 / 0.0

/-- The value of a name that stands for a real. -/
def ofNamed (name : String) (x : Float) : Value := if x.isNaN then undefined name else real x

/-- The name that a value comes from, if it is no number. -/
def origin? : Value → Option String
  | undefined origin => some origin
  | truth _ | whole _ | real _ => none

/-- The whole number that a value is or counts as. -/
def whole? : Value → Option Int
  | truth b => some (if b then 1 else 0)
  | whole n => some n
  | real _ | undefined _ => none

/-- The value as a real number; a whole number may be too large for one. -/
def toReal : Value → Except Fault Float
  | truth b => .ok (if b then 1.0 else 0.0)
  | whole n => realOfWhole n
  | real x => .ok x
  | undefined _ => .ok notANumber

/-- The value made a real one. -/
def asReal : Value → Except Fault Value
  | undefined origin => .ok (undefined origin)
  | v => v.toReal.map real

/-- Whether the value counts as true: all but false and zero do. -/
def holds : Value → Bool
  | truth b => b
  | whole n => n != 0
  | real x => !(x == 0.0)
  | undefined _ => true

/-- Whether the value is zero. -/
def isZero (v : Value) : Bool := !v.holds

/-- An operation that is exact on whole numbers and rounds on real ones. -/
def arithmetic (exact : Int → Int → Int) (rounded : Float → Float → Float) (v w : Value) :
    Except Fault Value :=
  match v.whole?, w.whole? with
  | some m, some n => .ok (.whole (exact m n))
  | _, _ => do
    let x ← v.toReal
    let y ← w.toReal
    return .real (rounded x y)

/-- The quotient of two whole numbers, the second not zero, rounded once. Its sign is that of
the operands also when it is zero. -/
def wholeQuotient (m n : Int) : Except Fault Float :=
  let x := nearestSigned (decide (m < 0) != decide (n < 0)) m.natAbs n.natAbs
  if x.isFinite then .ok x else .error .quotientTooLarge

def divide (v w : Value) : Except Fault Value :=
  match v.whole?, w.whole? with
  | some m, some n =>
    if n = 0 then .error .divisionByZero else (wholeQuotient m n).map .real
  | _, _ => do
    let x ← v.toReal
    let y ← w.toReal
    if y == 0.0 then throw .realDivisionByZero else return .real (x / y)

/-- The remainder of two real numbers, the second not zero, with the sign of the first. -/
def realRemainder (x y : Float) : Except Fault Float :=
  match Binary.ofFloat? x, Binary.ofFloat? y with
  | some a, some b => .ok (exactRemainder a b)
  | some _, none => .ok (if y.isNaN then y else x)
  | none, _ =>
    if x.isNaN then .ok x else if y.isNaN then .ok y else .error .outsideDomain

/-- The remainder, always a real number. -/
def remainder (v w : Value) : Except Fault Value :=
  if w.isZero then .error .remainderByZero
  else do
    let x ← v.toReal
    let y ← w.toReal
    return .real (← realRemainder x y)

/-- How a whole number compares with a real one, if that is a number. -/
def compareWholeReal (n : Int) (x : Float) : Option Ordering :=
  match Binary.ofFloat? x with
  | some b => some (b.compareWhole n)
  | none => if x.isNaN then none else some (if x < 0.0 then .gt else .lt)

/-- How two real numbers compare, if both are numbers. -/
def compareReals (x y : Float) : Option Ordering :=
  if x < y then some .lt else if x == y then some .eq else if y < x then some .gt else none

/-- How two values compare, exactly; nothing compares with what is not a number. -/
def compare? (v w : Value) : Option Ordering :=
  match v.whole?, w.whole?, v, w with
  | some m, some n, _, _ => some (compare m n)
  | some m, none, _, real y => compareWholeReal m y
  | none, some n, real x, _ => (compareWholeReal n x).map .swap
  | _, _, real x, real y => compareReals x y
  | _, _, _, _ => none

/-- The outcome of a comparison operator. -/
def comparison : BinaryOp → Option Ordering → Bool
  | .less, o => o == some .lt
  | .greater, o => o == some .gt
  | .atMost, o => o == some .lt || o == some .eq
  | .atLeast, o => o == some .gt || o == some .eq
  | .unequal, o => o != some .eq
  | _, o => o == some .eq

end Value

/-- What an operator yields between two values. -/
def BinaryOp.apply (op : BinaryOp) (v w : Value) : Except Fault Value :=
  match op with
  | add => v.arithmetic (· + ·) (· + ·) w
  | subtract => v.arithmetic (· - ·) (· - ·) w
  | multiply => v.arithmetic (· * ·) (· * ·) w
  | divide => v.divide w
  | remainder => v.remainder w
  | less | greater | atMost | atLeast | equal | unequal =>
    .ok (.truth (Value.comparison op (v.compare? w)))

/-- What an operator yields in front of a value. -/
def UnaryOp.apply (op : UnaryOp) (v : Value) : Value :=
  match op, v.whole?, v with
  | not, _, _ => .truth (!v.holds)
  | negate, some n, _ => .whole (-n)
  | negate, _, .real x => .real (-x)
  | negate, _, .undefined _ => .real (-Value.notANumber)
  | keep, some n, _ => .whole n
  | _, _, v => v

end SystemDynamics
