import SystemDynamics.Table
import SystemDynamics.Number.Reading
import SystemDynamics.Number.Decimal
import SystemDynamics.Text.Quoted
/-!
# Declarations

A model is declared in blocks of properties and points. The value of a property is a number, a
quoted text, or any other text, which is taken for an expression.
-/

namespace SystemDynamics

inductive BlockKind where
  | const | stock | flow | terminate | graph | lookup | lookup2d
  deriving DecidableEq

namespace BlockKind

def name : BlockKind → String
  | const => "const"
  | stock => "stock"
  | flow => "flow"
  | terminate => "terminate"
  | graph => "graph"
  | lookup => "lookup"
  | lookup2d => "lookup2d"

/-- Whether the block holds points. -/
def holdsPoints : BlockKind → Bool
  | lookup | lookup2d => true
  | const | stock | flow | terminate | graph => false

end BlockKind

inductive PropertyValue where
  | text (value : String)
  | number (value : Float)
  | expression (source : String)
  deriving DecidableEq

structure Declaration where
  kind : BlockKind
  name : String
  properties : Table PropertyValue
  /-- The coordinates of the points, two or three each. -/
  points : List (List Float)
  line : Nat
  deriving DecidableEq

namespace Reading

/-- The number that a text without anything else but blanks around it writes: a literal, perhaps
behind a sign. -/
def number? (cs : List Char) : Option Float :=
  let (negative, body) := sign (Text.strip cs)
  match literal? body with
  | some (l, []) => some (if negative then -l.value else l.value)
  | _ => none

end Reading

namespace PropertyValue

/-- The value that a text writes. Nothing at all is the number zero. -/
def read (cs : List Char) : PropertyValue :=
  let cs := Text.strip cs
  match cs with
  | [] => number 0.0
  | '"' :: rest =>
    match rest.getLast? with
    | some '"' => text (String.ofList rest.dropLast)
    | _ => expression (String.ofList cs)
  | _ =>
    match Reading.number? cs with
    | some x => number x
    | none => expression (String.ofList cs)

/-- How a value shows in listings. -/
def display : PropertyValue → String
  | text s => Text.quoted s
  | number x => exactText x
  | expression s => "RawExpression(" ++ Text.quoted s ++ ")"

/-- The value as a plain text. -/
def asText : PropertyValue → String
  | text s => s
  | number x => messageText x
  | expression s => s

end PropertyValue

end SystemDynamics
