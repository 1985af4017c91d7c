import SystemDynamics.Expr.SyntaxError
import SystemDynamics.Expr.Function
import SystemDynamics.Delay.Arena
/-!
# Resolved expressions

Before an expression is evaluated, its calls are resolved: each function is looked up, its
arguments are counted, tables are told from values, and each delay call claims a slot, a call
before the calls in its arguments. Names stay names; what they stand for is decided whenever the
expression is evaluated.
-/

namespace SystemDynamics

/-- An expression whose calls are resolved. -/
inductive Code where
  | number (x : Float)
  | name (identifier : String)
  | unary (op : UnaryOp) (operand : Code)
  | binary (op : BinaryOp) (left right : Code)
  | logical (op : LogicalOp) (left right : Code)
  | choice (condition consequence alternative : Code)
  | math (f : MathFunction) (argument : Code)
  | power (base exponent : Code)
  | extremum (e : Extremum) (first : Code) (rest : List Code)
  | delay (kind : DelayKind) (slot : Nat) (value parameter : Code)
  | lookup (value : Code) (table : String)
  /-- The coordinates are x and y of each point in turn. -/
  | inlineLookup (value : Code) (coordinates : List Code) (label : String)
  | surfaceLookup (x y : Code) (table : String)

/-- What a function name stands for. -/
inductive Builtin where
  | math (f : MathFunction)
  | power
  | extremum (e : Extremum)
  | delay (kind : DelayKind)
  | lookup
  | surfaceLookup
  deriving DecidableEq

namespace Builtin

def ofName? (name : String) : Option Builtin :=
  match MathFunction.ofName? name, Extremum.ofName? name, DelayKind.ofName? name with
  | some f, _, _ => some (math f)
  | _, some e, _ => some (extremum e)
  | _, _, some k => some (delay k)
  | none, none, none =>
    match name with
    | "pow" => some power
    | "LOOKUP" => some lookup
    | "LOOKUP2D" => some surfaceLookup
    | _ => none

/-- Whether the function needs the tables or the delay arena of a model. -/
def needsModel : Builtin → Bool
  | delay _ | lookup | surfaceLookup => true
  | math _ | power | extremum _ => false

/-- The number of arguments; none where there may be any number but zero. -/
def arity? : Builtin → Option Nat
  | math _ => some 1
  | power | delay _ | lookup => some 2
  | surfaceLookup => some 3
  | extremum _ => none

/-- What is wrong with a call of the function with so many arguments. -/
def misuse? (b : Builtin) (function : String) (count : Nat) (inModel : Bool) : Option Misuse :=
  if b.needsModel && !inModel then some (.needsModel function)
  else
    match b.arity? with
    | some n => if count = n then none else some (.argumentCount function n count)
    | none => if count = 0 then some (.noArguments function) else none

end Builtin

/-- Where an expression is used. -/
structure Site where
  /-- Whether there is a model behind it. -/
  inModel : Bool
  /-- The name under which its failures are reported. -/
  source : String

/-- The slots of a model while the calls of one expression are being resolved. -/
structure Claims where
  slots : List Slot
  /-- The kinds of the slots that this expression has claimed. -/
  claimed : List DelayKind

/-- Resolving an expression may claim slots, and keeps them if it fails. -/
abbrev Resolution := ExceptT Misuse (StateM Claims)

namespace Resolution

/-- Claims the next slot for a delay call. The label counts the calls of one kind in an
expression from zero. -/
def claim (source : String) (kind : DelayKind) : Resolution Nat := do
  let c ← get
  let label := source ++ ":" ++ kind.name ++ "#" ++ toString (c.claimed.count kind)
  set (Claims.mk (c.slots ++ [.claimed kind.name label]) (c.claimed ++ [kind]))
  return c.slots.length

end Resolution

namespace Expr

/-- The name of a table that an argument gives. -/
def tableName? : Expr → Option String
  | name n => some n
  | text s => some s
  | _ => none

mutual

/-- Resolves the calls of an expression. -/
def resolve (site : Site) : Expr → Resolution Code
  | .number x => return .number x
  | .text s => throw (.textOutsideTableName s)
  | .name n => return .name n
  | .unary op x => return .unary op (← resolve site x)
  | .binary op l r => return .binary op (← resolve site l) (← resolve site r)
  | .logical op l r => return .logical op (← resolve site l) (← resolve site r)
  | .choice c t e =>
    return .choice (← resolve site c) (← resolve site t) (← resolve site e)
  | .list _ => throw .listOutsideTable
  | .call f arguments =>
    match Builtin.ofName? f with
    | none => throw (.unknownFunction f)
    | some b =>
      match b.misuse? f arguments.length site.inModel with
      | some m => throw m
      | none =>
        match b, arguments with
        | .math g, [x] => return .math g (← resolve site x)
        | .power, [x, y] => return .power (← resolve site x) (← resolve site y)
        | .extremum e, x :: xs => return .extremum e (← resolve site x) (← resolveAll site xs)
        | .delay kind, [x, y] => do
          let slot ← Resolution.claim site.source kind
          return .delay kind slot (← resolve site x) (← resolve site y)
        | .lookup, [x, table] => do
          let value ← resolve site x
          match table with
          | .name n => return .lookup value n
          | .text n => return .lookup value n
          | .list items =>
            return .inlineLookup value (← resolvePoints site items) (site.source ++ ":inline")
          | _ => throw .notATable
        | .surfaceLookup, [x, y, table] => do
          let x ← resolve site x
          let y ← resolve site y
          match table.tableName? with
          | some n => return .surfaceLookup x y n
          | none => throw .notASurfaceName
        | _, _ => throw (.unknownFunction f)

/-- Resolves the expressions one after the other. -/
def resolveAll (site : Site) : List Expr → Resolution (List Code)
  | [] => return []
  | x :: xs => return (← resolve site x) :: (← resolveAll site xs)

/-- Resolves the coordinates of a table written out in the expression. -/
def resolvePoints (site : Site) : List Expr → Resolution (List Code)
  | [] => return []
  | item :: items =>
    match item with
    | .list [x, y] => do
      let x ← resolve site x
      let y ← resolve site y
      return x :: y :: (← resolvePoints site items)
    | _ => throw .notAPoint

end

end Expr

namespace Code

mutual

/-- The names in an expression, those of tables apart, in order and with repetitions. -/
def names : Code → List String
  | number _ => []
  | name n => [n]
  | unary _ x | math _ x => names x
  | binary _ x y | logical _ x y | power x y | delay _ _ x y | surfaceLookup x y _ =>
    names x ++ names y
  | choice x y z => names x ++ (names y ++ names z)
  | extremum _ x xs => names x ++ namesOfAll xs
  | lookup x _ => names x
  | inlineLookup x coordinates _ => names x ++ namesOfAll coordinates

/-- The names in several expressions. -/
def namesOfAll : List Code → List String
  | [] => []
  | x :: xs => names x ++ namesOfAll xs

end

/-- Adds a name to an ascending list of names unless it is there. -/
def addName (n : String) : List String → List String
  | [] => [n]
  | m :: rest => if n < m then n :: m :: rest else if n = m then m :: rest else m :: addName n rest

/-- The names in an expression in ascending order, each once. -/
def references (c : Code) : List String := c.names.foldr addName []

end Code

end SystemDynamics
