/-!
# Expressions

The tree that a text stands for. `&&` and `||` are apart from the other operators because
they may leave their right side unevaluated.
-/

namespace SystemDynamics

inductive UnaryOp where
  | negate | keep | not
  deriving DecidableEq

inductive BinaryOp where
  | add | subtract | multiply | divide | remainder
  | less | greater | atMost | atLeast | equal | unequal
  deriving DecidableEq

inductive LogicalOp where
  | and | or
  deriving DecidableEq

/-- How the operator is written. -/
def UnaryOp.symbol : UnaryOp → String
  | negate => "-" | keep => "+" | not => "!"

/-- How the operator is written. -/
def BinaryOp.symbol : BinaryOp → String
  | add => "+" | subtract => "-" | multiply => "*" | divide => "/" | remainder => "%"
  | less => "<" | greater => ">" | atMost => "<=" | atLeast => ">="
  | equal => "==" | unequal => "!="

/-- How the operator is written. -/
def LogicalOp.symbol : LogicalOp → String
  | and => "&&" | or => "||"

inductive Expr where
  | number (value : Float)
  | text (value : String)
  | name (identifier : String)
  | unary (op : UnaryOp) (operand : Expr)
  | binary (op : BinaryOp) (left right : Expr)
  | logical (op : LogicalOp) (left right : Expr)
  | choice (condition consequence alternative : Expr)
  | call (function : String) (arguments : List Expr)
  | list (items : List Expr)

end SystemDynamics
