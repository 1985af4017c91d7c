import SystemDynamics.Expr.SyntaxError
import SystemDynamics.Number.Reading
import SystemDynamics.Datum
/-!
# Faults

Everything that can go wrong while numbers are computed, data converted, or a model is driven.
Each fault has a kind and a message; diagnostics and reports show both.
-/

namespace SystemDynamics

/-- What a text or datum was to be converted to. -/
inductive Target where
  | real | whole
  deriving DecidableEq

inductive Fault where
  | badExpression (e : SyntaxError)
  | unknownName (name : String)
  | nonFinite (x : Float)
  | emptyTable (name : String)
  | missingPoint (name : String) (x y : Float)
  | divisionByZero
  | realDivisionByZero
  | remainderByZero
  | outsideDomain
  | resultTooLarge
  | wholeTooLarge
  | quotientTooLarge
  | wholeOfNaN
  | wholeOfInfinity
  | unreadable (target : Target) (text : String)
  /-- A text is to be a whole number in a base other than ten. -/
  | unreadableIn (base : Nat) (text : String)
  | tooManyDigits (count : Nat)
  | wrongType (target : Target) (typeName : String)
  | badStepSize (x : Float)
  | noSuchSample
  | uncountableSample
  | noSuchElement
  | noSuchCharacter
  | noSuchPlace (place : Nat)
  | notIndexed (typeName : String)
  | notACollection (typeName : String)
  | indexTooLarge
  | badSampleIndex (typeName : String)
  | badElementIndex (typeName : String)
  | capacityTooLarge
  | noSuchKey (key : String)
  /-- More calls would be open at once than the host lets. -/
  | nestedTooDeeply
  | raised (text : String)
  deriving DecidableEq

namespace Fault

/-- The kind of the fault, as diagnostics name it. -/
def kind : Fault → String
  | badExpression _ => "ExpressionSyntaxError"
  | unknownName _ | nonFinite _ | emptyTable _ | missingPoint _ _ _ => "EvaluationError"
  | divisionByZero | realDivisionByZero | remainderByZero => "ZeroDivisionError"
  | outsideDomain | wholeOfNaN | unreadable _ _ | unreadableIn _ _ | tooManyDigits _
  | badStepSize _ => "ValueError"
  | resultTooLarge | wholeTooLarge | quotientTooLarge | wholeOfInfinity
  | capacityTooLarge => "OverflowError"
  | wrongType _ _ | badSampleIndex _ | badElementIndex _ | notIndexed _
  | notACollection _ | uncountableSample => "TypeError"
  | noSuchSample | noSuchElement | noSuchCharacter | indexTooLarge => "IndexError"
  | noSuchKey _ | noSuchPlace _ => "KeyError"
  | nestedTooDeeply => "RecursionError"
  | raised _ => "RuntimeError"

/-- How much of a text that is no whole number its message shows. -/
def shownLiteral : Nat := 200

/-- What a message says of a text that is no whole number in a base. -/
def literalMessage (base : Nat) (text : String) : String :=
  "invalid literal for int() with base " ++ toString base ++ ": " ++
    String.ofList ((Text.quoted text).toList.take shownLiteral)

def message : Fault → String
  | badExpression e => e.message
  | unknownName name => "Unknown identifier '" ++ name ++ "'"
  | nonFinite x => "non-finite result " ++ exactText x
  | emptyTable name => "Lookup table '" ++ name ++ "' has no points"
  | missingPoint name x y =>
    "Lookup table '" ++ name ++ "' has no value at (" ++ messageText x ++ ", " ++
      messageText y ++ ")"
  | divisionByZero => "division by zero"
  | realDivisionByZero => "float division by zero"
  | remainderByZero => "modulo by zero"
  | outsideDomain => "math domain error"
  | resultTooLarge => "math range error"
  | wholeTooLarge => "int too large to convert to float"
  | quotientTooLarge => "integer division result too large for a float"
  | wholeOfNaN => "cannot convert float NaN to integer"
  | wholeOfInfinity => "cannot convert float infinity to integer"
  | unreadable .real text => "could not convert string to float: " ++ Text.quoted text
  | unreadable .whole text => literalMessage 10 text
  | unreadableIn base text => literalMessage base text
  | tooManyDigits count =>
    "Exceeds the limit (" ++ toString Reading.digitLimit ++
      " digits) for integer string conversion: value has " ++ toString count ++
      " digits; use sys.set_int_max_str_digits() to increase the limit"
  | wrongType .real typeName =>
    "float() argument must be a string or a real number, not '" ++ typeName ++ "'"
  | wrongType .whole typeName =>
    "int() argument must be a string, a bytes-like object or a real number, not '" ++
      typeName ++ "'"
  | badStepSize x => "dt must be a positive finite number, got " ++ exactText x
  | noSuchSample => "deque index out of range"
  | uncountableSample =>
    "Cannot cast array data from dtype('O') to dtype('float64') according to the rule 'safe'"
  | noSuchElement => "list index out of range"
  | noSuchCharacter => "string index out of range"
  | noSuchPlace place => toString place
  | notIndexed typeName => "'" ++ typeName ++ "' object is not subscriptable"
  | notACollection typeName => "'" ++ typeName ++ "' object is not iterable"
  | indexTooLarge => "cannot fit 'int' into an index-sized integer"
  | badSampleIndex typeName => "sequence index must be integer, not '" ++ typeName ++ "'"
  | badElementIndex typeName =>
    "list indices must be integers or slices, not " ++ typeName
  | capacityTooLarge => "Python int too large to convert to C ssize_t"
  | noSuchKey key => Text.quoted key
  | nestedTooDeeply => "maximum recursion depth exceeded"
  | raised text => text

/-- The fault as diagnostics record it. -/
def report (f : Fault) : String := f.kind ++ ": " ++ f.message

end Fault

/-- A real number without its fraction. -/
def truncateReal (x : Float) : Except Fault Int :=
  match Binary.ofFloat? x with
  | some b => .ok b.truncate
  | none => .error (if x.isNaN then .wholeOfNaN else .wholeOfInfinity)

/-- A whole number as a real one. -/
def realOfWhole (n : Int) : Except Fault Float :=
  match nearestWhole? n with
  | some x => .ok x
  | none => .error .wholeTooLarge

namespace Datum

/-- The real number that a datum stands for. -/
def toReal : Datum → Except Fault Float
  | truth b => .ok (if b then 1.0 else 0.0)
  | whole n => realOfWhole n
  | real x => .ok x
  | text s =>
    match Reading.real? s.toList with
    | some x => .ok x
    | none => .error (.unreadable .real s)
  | d => .error (.wrongType .real d.typeName)

/-- The whole number that a datum stands for; a real number loses its fraction. -/
def toWhole : Datum → Except Fault Int
  | truth b => .ok (if b then 1 else 0)
  | whole n => .ok n
  | real x => truncateReal x
  | text s =>
    match Reading.whole s.toList with
    | .number n => .ok n
    | .tooLong count => .error (.tooManyDigits count)
    | .unreadable => .error (.unreadable .whole s)
  | d => .error (.wrongType .whole d.typeName)

/-- The greatest size and index there are. -/
def greatestSize : Int := 0x7fffffffffffffff

/-- A capacity. One that no size can be is a fault. -/
def toCapacity (d : Datum) : Except Fault Int := do
  let n ← d.toWhole
  if greatestSize < n then throw .capacityTooLarge else return n

/-- A number as an index. -/
def indexOf (n : Int) : Except Fault Int :=
  if -greatestSize - 1 ≤ n ∧ n ≤ greatestSize then .ok n else .error .indexTooLarge

/-- An index; `bad` is the fault of a datum of a type that is none. -/
def toIndex (bad : String → Fault) : Datum → Except Fault Int
  | truth b => .ok (if b then 1 else 0)
  | whole n => indexOf n
  | d => .error (bad d.typeName)

end Datum

end SystemDynamics
