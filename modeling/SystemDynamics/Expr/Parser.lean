import SystemDynamics.Expr.Lexer
import SystemDynamics.Expr.Tree
/-!
# Parsing expressions

The parser reads one token per step. It keeps the constructs that have begun and not ended, the
innermost first, and what it has read of the current operand. An operator first closes the
constructs that bind at least as tightly as it does; a bracket, comma or colon closes all up to
the construct that waits for it. So the operators group from the left, a choice from the right,
and the first token that cannot continue any expression stops the parser.

The constructs are kept in a list, so they may nest as deeply as a text is long. Where a text is read
by calls within each other, `Expr.Descent`, only so many may be open.

The levels, from the loosest: the branches of a choice 0, `||` 1, `&&` 2, `==` and `!=` 3, `<`,
`>`, `<=` and `>=` 4, `+` and `-` 5, `*`, `/` and `%` 6, the signs and `!` 7.
-/

namespace SystemDynamics

/-- An operator that stands between two operands. -/
inductive Join where
  | binary (op : BinaryOp)
  | logical (op : LogicalOp)
  deriving DecidableEq

namespace Join

/-- How tightly the operator binds. -/
def level : Join → Nat
  | logical .or => 1
  | logical .and => 2
  | binary .equal | binary .unequal => 3
  | binary .less | binary .greater | binary .atMost | binary .atLeast => 4
  | binary .add | binary .subtract => 5
  | binary .multiply | binary .divide | binary .remainder => 6

def apply (left right : Expr) : Join → Expr
  | binary op => .binary op left right
  | logical op => .logical op left right

end Join

namespace Symbol

/-- The operator that the symbol stands for between two operands. -/
def join? : Symbol → Option Join
  | and => some (.logical .and)
  | or => some (.logical .or)
  | atMost => some (.binary .atMost)
  | atLeast => some (.binary .atLeast)
  | equal => some (.binary .equal)
  | unequal => some (.binary .unequal)
  | minus => some (.binary .subtract)
  | plus => some (.binary .add)
  | times => some (.binary .multiply)
  | divide => some (.binary .divide)
  | remainder => some (.binary .remainder)
  | less => some (.binary .less)
  | greater => some (.binary .greater)
  | not | question | colon => none

/-- The operator that the symbol stands for in front of an operand. -/
def unary? : Symbol → Option UnaryOp
  | minus => some .negate
  | plus => some .keep
  | not => some .not
  | _ => none

end Symbol

namespace Parser

/-- A construct that has begun: what it has read so far, its last part missing. -/
inductive Frame where
  | unary (op : UnaryOp)
  | join (op : Join) (left : Expr)
  | consequence (condition : Expr)
  | alternative (condition consequence : Expr)
  | group
  | arguments (function : String) (before : List Expr)
  | items (before : List Expr)

namespace Frame

/-- The construct with its last part, when it needs nothing more and binds at least as tightly
as the level asks. -/
def close? (level : Nat) (x : Expr) : Frame → Option Expr
  | unary op => if level ≤ 7 then some (.unary op x) else none
  | join op left => if level ≤ op.level then some (op.apply left x) else none
  | alternative c t => if level ≤ 0 then some (.choice c t x) else none
  | consequence _ | group | arguments _ _ | items _ => none

/-- The token that the construct waits for after an operand, as messages call it. -/
def wanted? : Frame → Option String
  | consequence _ => some ":"
  | group | arguments _ _ => some Token.closeParen.kind
  | items _ => some Token.closeBracket.kind
  | unary _ | join _ _ | alternative _ _ => none

end Frame

/-- Closes the innermost constructs as far as the level reaches. -/
def settle (level : Nat) : List Frame → Expr → List Frame × Expr
  | [], x => ([], x)
  | f :: fs, x =>
    match f.close? level x with
    | some y => settle level fs y
    | none => (f :: fs, x)

/-- What has been read of the current operand. -/
inductive Focus where
  | nothing
  | name (identifier : String)
  | operand (x : Expr)

/-- Where the parser stands between two tokens. -/
structure State where
  frames : List Frame
  focus : Focus

/-- Before the first token. -/
def State.start : State := ⟨[], .nothing⟩

/-- What is wrong with a token after a complete operand. -/
def misplaced (frames : List Frame) (t : Token) : Complaint :=
  match frames.head?.bind Frame.wanted? with
  | some wanted => .expected wanted t.shown
  | none => .unexpectedToken t.value

/-- A token where an operand has to start. An argument or item list may end before its first
member. -/
def stepOperand (frames : List Frame) (t : Token) : Except Complaint State :=
  match t, frames with
  | .number l, _ => .ok ⟨frames, .operand (.number l.value)⟩
  | .text s, _ => .ok ⟨frames, .operand (.text s)⟩
  | .name n, _ => .ok ⟨frames, .name n⟩
  | .openParen, _ => .ok ⟨.group :: frames, .nothing⟩
  | .openBracket, _ => .ok ⟨.items [] :: frames, .nothing⟩
  | .closeParen, .arguments f [] :: fs => .ok ⟨fs, .operand (.call f [])⟩
  | .closeBracket, .items [] :: fs => .ok ⟨fs, .operand (.list [])⟩
  | .symbol s, _ =>
    match s.unary? with
    | some op => .ok ⟨.unary op :: frames, .nothing⟩
    | none => .error (.unexpectedToken t.shown)
  | _, _ => .error (.unexpectedToken t.shown)

/-- A colon, bracket or comma after an operand that ends all it can end. -/
def stepClosed (t : Token) (frames : List Frame) (x : Expr) : Except Complaint State :=
  match t, frames with
  | .symbol .colon, .consequence c :: fs => .ok ⟨.alternative c x :: fs, .nothing⟩
  | .closeParen, .group :: fs => .ok ⟨fs, .operand x⟩
  | .closeParen, .arguments f before :: fs => .ok ⟨fs, .operand (.call f (before ++ [x]))⟩
  | .closeBracket, .items before :: fs => .ok ⟨fs, .operand (.list (before ++ [x]))⟩
  | .comma, .arguments f before :: fs => .ok ⟨.arguments f (before ++ [x]) :: fs, .nothing⟩
  | .comma, .items before :: fs => .ok ⟨.items (before ++ [x]) :: fs, .nothing⟩
  | _, _ => .error (misplaced frames t)

/-- A token after a complete operand. -/
def stepAfter (frames : List Frame) (x : Expr) (t : Token) : Except Complaint State :=
  match t with
  | .symbol .question =>
    let (fs, y) := settle 1 frames x
    .ok ⟨.consequence y :: fs, .nothing⟩
  | .symbol s =>
    match s.join? with
    | some op =>
      let (fs, y) := settle op.level frames x
      .ok ⟨.join op y :: fs, .nothing⟩
    | none =>
      let (fs, y) := settle 0 frames x
      stepClosed t fs y
  | _ =>
    let (fs, y) := settle 0 frames x
    stepClosed t fs y

/-- One token. A name directly before a parenthesis is a function's. -/
def step (s : State) (t : Token) : Except Complaint State :=
  match s.focus, t with
  | .nothing, _ => stepOperand s.frames t
  | .name f, .openParen => .ok ⟨.arguments f [] :: s.frames, .nothing⟩
  | .name n, _ => stepAfter s.frames (.name n) t
  | .operand x, _ => stepAfter s.frames x t

/-- The expression that has been read, if it ends here. -/
def finish (s : State) : Except Complaint Expr :=
  let close (x : Expr) : Except Complaint Expr :=
    match settle 0 s.frames x with
    | ([], y) => .ok y
    | (fs, _) => .error (misplaced fs .finish)
  match s.focus with
  | .nothing => .error (.unexpectedToken Token.finish.shown)
  | .name n => close (.name n)
  | .operand x => close x

/-- Reads the tokens up to the end of the text; a failure comes with its position. -/
def run (s : State) : List Placed → Except (Complaint × Nat) Expr
  | [] => .error (.unexpectedToken Token.finish.shown, 0)
  | ⟨.finish, position⟩ :: _ =>
    match finish s with
    | .ok x => .ok x
    | .error c => .error (c, position)
  | ⟨t, position⟩ :: rest =>
    match step s t with
    | .ok s' => run s' rest
    | .error c => .error (c, position)

/-- The expression that the tokens of a text form. -/
def parseTokens (tokens : List Placed) : Except (Complaint × Nat) Expr :=
  match tokens with
  | ⟨.finish, _⟩ :: _ => .error (.emptyExpression, 0)
  | _ => run .start tokens

end Parser

/-- The expression that a text stands for, however deeply it nests. -/
def Expr.parse (text : String) : Except SyntaxError Expr :=
  match tokenize text with
  | .error e => .error e
  | .ok tokens =>
    match Parser.parseTokens tokens with
    | .ok x => .ok x
    | .error (complaint, position) => .error (.located complaint text position)

end SystemDynamics
