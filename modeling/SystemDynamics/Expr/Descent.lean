import SystemDynamics.Depth
import SystemDynamics.Expr.Lexer
import SystemDynamics.Expr.Parser
import SystemDynamics.Fault
/-!
# Reading expressions by descent

The expression parser as it calls itself: one rule for each level, and each rule reads its parts by
the rule of the next level, or by the first one again within brackets. The levels are those of
`Expr.Parser`, with the names, literals and brackets 9, apart from the calls 8. A rule looks at the
tokens by their index, and there may be none at it.

Every rule, and the reading of a list, is a call; the number says how many may be opened. The
helpers that look at a token open none that stay open.
-/

namespace SystemDynamics

namespace Descent

/-- A rule reads an expression from an index on, and gives the index behind it. -/
abbrev Rule := Nat → Except Fault (Expr × Nat)

/-- The operator that a token is in front of an operand. -/
def sign? : Token → Option UnaryOp
  | .symbol s => s.unary?
  | _ => none

/-- The operator of the level that a token is. -/
def joinAt? (level : Nat) : Token → Option Join
  | .symbol s => s.join?.filter (·.level = level)
  | _ => none

/-- How messages call a token that is missing. -/
def wanted : Token → String
  | .symbol s => s.text
  | t => t.kind

section

variable (text : String) (tokens : List Placed)

/-- The token at an index. -/
def tokenAt (i : Nat) : Except Fault Placed :=
  match tokens[i]? with
  | some p => .ok p
  | none => .error .noSuchElement

/-- The index behind the token at an index. Nothing is behind the end. -/
def advance (i : Nat) : Except Fault Nat := do
  let p ← tokenAt tokens i
  return if p.token = .finish then i else i + 1

/-- Complains about the token at an index. -/
def fail {α : Type} (i : Nat) (complaint : Token → Complaint) : Except Fault α := do
  let p ← tokenAt tokens i
  throw (.badExpression (.located (complaint p.token) text p.position))

/-- The index behind a token that has to be at an index. -/
def expect (t : Token) (i : Nat) : Except Fault Nat := do
  let p ← tokenAt tokens i
  if p.token = t then advance tokens i
  else fail text tokens i fun found => .expected (wanted t) found.shown

/-- A choice, or a condition alone. -/
def choice (enter : Nat → Rule) : Rule := fun i => do
  let (condition, i) ← enter 1 i
  if (← tokenAt tokens i).token = .symbol .question then
    let i ← advance tokens i
    let (consequence, i) ← enter 0 i
    let i ← expect text tokens (.symbol .colon) i
    let (alternative, i) ← enter 0 i
    return (.choice condition consequence alternative, i)
  else return (condition, i)

/-- The operators of a level behind an operand, each with its right side. A turn reads two tokens,
so there are fewer turns than tokens. -/
def chain (operand : Rule) (level : Nat) : (turns : Nat) → Expr → Rule
  | 0, _, _ => throw .noSuchElement
  | turns + 1, left, i => do
    match joinAt? level (← tokenAt tokens i).token with
    | some op =>
      let i ← advance tokens i
      let (right, i) ← operand i
      chain operand level turns (op.apply left right) i
    | none => return (left, i)

/-- The signs in front of an operand. -/
def signed (enter : Nat → Rule) : Rule := fun i => do
  match sign? (← tokenAt tokens i).token with
  | some op =>
    let i ← advance tokens i
    let (x, i) ← enter 7 i
    return (.unary op x, i)
  | none => enter 8 i

/-- A call. A name is a function's if a parenthesis follows it. -/
def call (enter : Nat → Rule) (members : Token → Nat → Except Fault (List Expr × Nat)) : Rule :=
  fun i => do
    match (← tokenAt tokens i).token with
    | .name f =>
      if (← tokenAt tokens (i + 1)).token = .openParen then
        let i ← advance tokens i
        let i ← advance tokens i
        let (xs, i) ← members .closeParen i
        return (.call f xs, i)
      else enter 9 i
    | _ => enter 9 i

/-- A literal, a name, a group or a list. -/
def atom (enter : Nat → Rule) (members : Token → Nat → Except Fault (List Expr × Nat)) : Rule :=
  fun i => do
    match (← tokenAt tokens i).token with
    | .number l => return (.number l.value, ← advance tokens i)
    | .text s => return (.text s, ← advance tokens i)
    | .name n => return (.name n, ← advance tokens i)
    | .openParen =>
      let i ← advance tokens i
      let (x, i) ← enter 0 i
      let i ← expect text tokens .closeParen i
      return (x, i)
    | .openBracket =>
      let i ← advance tokens i
      let (xs, i) ← members .closeBracket i
      return (.list xs, i)
    | _ => fail text tokens i fun found => .unexpectedToken found.shown

/-- Expressions with commas between them and a bracket behind the last. -/
def sequence (item : Rule) (closer : Token) :
    (turns : Nat) → List Expr → Nat → Except Fault (List Expr × Nat)
  | 0, _, _ => throw .noSuchElement
  | turns + 1, before, i => do
    let (x, i) ← item i
    if (← tokenAt tokens i).token = .comma then
      let i ← advance tokens i
      sequence item closer turns (before ++ [x]) i
    else
      let i ← expect text tokens closer i
      return (before ++ [x], i)

mutual

/-- The rule of a level, when so many calls may be opened. -/
def descend : (calls : Nat) → (level : Nat) → Rule
  | 0, _, _ => throw .nestedTooDeeply
  | calls + 1, level, i =>
    match level with
    | 0 => choice text tokens (descend calls) i
    | 7 => signed tokens (descend calls) i
    | 8 => call tokens (descend calls) (members calls) i
    | 9 => atom text tokens (descend calls) (members calls) i
    | level => do
      let (left, i) ← descend calls (level + 1) i
      chain tokens (descend calls (level + 1)) level tokens.length left i

/-- The expressions up to a bracket, of which there may be none. -/
def members : (calls : Nat) → Token → Nat → Except Fault (List Expr × Nat)
  | 0, _, _ => throw .nestedTooDeeply
  | calls + 1, closer, i => do
    if (← tokenAt tokens i).token = closer then return ([], ← advance tokens i)
    else sequence text tokens (descend calls 0) closer tokens.length [] i

end

/-- The expression that the tokens of a text form. -/
def parse (calls : Nat) : Except Fault Expr := do
  if (← tokenAt tokens 0).token = .finish then
    throw (.badExpression (.located .emptyExpression text 0))
  let (x, i) ← descend text tokens calls 0 0
  if (← tokenAt tokens i).token = .finish then return x
  else fail text tokens i fun found => .unexpectedToken found.value

end

end Descent

/-- The expression that a text stands for, when the rules of the parser may open so many calls. -/
def Expr.parseWithin (calls : Nat) (text : String) : Except Fault Expr :=
  match tokenize text with
  | .error e => .error (.badExpression e)
  | .ok tokens => Descent.parse text tokens calls

end SystemDynamics
