import SystemDynamics.Number.Reading
/-!
# Tokens of expressions

A token is a number, a quoted text, a name, an operator symbol, a bracket or comma, or the end
of the text. It shows in messages and listings by its kind and by the text that stands for it.
-/

namespace SystemDynamics

/-- The operator symbols. -/
inductive Symbol where
  | and | or | atMost | atLeast | equal | unequal
  | minus | plus | times | divide | remainder | less | greater | not | question | colon
  deriving DecidableEq

/-- The spelling of a symbol. -/
def Symbol.text : Symbol → String
  | and => "&&" | or => "||" | atMost => "<=" | atLeast => ">=" | equal => "==" | unequal => "!="
  | minus => "-" | plus => "+" | times => "*" | divide => "/" | remainder => "%"
  | less => "<" | greater => ">" | not => "!" | question => "?" | colon => ":"

inductive Token where
  | number (literal : Reading.Literal)
  | text (value : String)
  | name (identifier : String)
  | symbol (s : Symbol)
  | openParen | closeParen | openBracket | closeBracket | comma
  | finish
  deriving DecidableEq

namespace Token

/-- What kind of token it is, as messages and listings call it. -/
def kind : Token → String
  | number _ => "NUMBER" | text _ => "STRING" | name _ => "IDENT" | symbol _ => "OP"
  | openParen => "LPAREN" | closeParen => "RPAREN"
  | openBracket => "LBRACKET" | closeBracket => "RBRACKET"
  | comma => "COMMA" | finish => "END"

/-- The text that stands for the token: a quoted text without its quotes, nothing for the end. -/
def value : Token → String
  | number l => String.ofList l.text | text s => s | name n => n | symbol s => s.text
  | openParen => "(" | closeParen => ")" | openBracket => "[" | closeBracket => "]"
  | comma => "," | finish => ""

/-- How messages name what they found. A quoted text of no characters has nothing to show and
is named like the end. -/
def shown (t : Token) : String := if t.value = "" then "end of input" else t.value

end Token

/-- A token and the number of characters before it. -/
structure Placed where
  token : Token
  position : Nat
  deriving DecidableEq

end SystemDynamics
