import SystemDynamics.Expr.Token
import SystemDynamics.Expr.SyntaxError
import SystemDynamics.Text.Blank
/-!
# Cutting a text into tokens

At each place the longest lexeme is taken: blanks, which give no token, a decimal literal, a text
between two quotes of one kind, a name in ASCII letters, or a symbol. A place where none starts
is an error; otherwise the tokens end with the end of the text at its length.
-/

namespace SystemDynamics.Lexer

open Text

/-- A lexeme: its token, none for blanks, the characters it takes and those after it. -/
structure Lexeme where
  token : Option Token
  taken : List Char
  rest : List Char

/-- The blanks that a text starts with. -/
def blanks? (cs : List Char) : Option Lexeme :=
  match cs.takeWhile isBlank with
  | [] => none
  | taken => some ⟨none, taken, cs.dropWhile isBlank⟩

/-- The decimal literal that a text starts with. -/
def number? (cs : List Char) : Option Lexeme :=
  (Reading.literal? cs).map fun (l, rest) => ⟨some (.number l), l.text, rest⟩

/-- The text between the quote that a text starts with and the next such quote. -/
def quotedText? : List Char → Option Lexeme
  | [] => none
  | q :: cs =>
    if q = '"' ∨ q = '\'' then
      match cs.dropWhile (· ≠ q) with
      | [] => none
      | _ :: rest =>
        let inside := cs.takeWhile (· ≠ q)
        some ⟨some (.text (String.ofList inside)), q :: (inside ++ [q]), rest⟩
    else none

def isNameChar (c : Char) : Bool := c.isAlphanum || c == '_'

/-- The name that a text starts with: an ASCII letter or underscore, perhaps behind a dollar
sign, and what follows of letters, digits and underscores. -/
def name? : List Char → Option Lexeme
  | '$' :: c :: cs =>
    if c.isAlpha || c == '_' then
      let taken := '$' :: c :: cs.takeWhile isNameChar
      some ⟨some (.name (String.ofList taken)), taken, cs.dropWhile isNameChar⟩
    else none
  | c :: cs =>
    if c.isAlpha || c == '_' then
      let taken := c :: cs.takeWhile isNameChar
      some ⟨some (.name (String.ofList taken)), taken, cs.dropWhile isNameChar⟩
    else none
  | [] => none

/-- A symbol of two characters. -/
def longSymbol? : Char → Char → Option Symbol
  | '&', '&' => some .and
  | '|', '|' => some .or
  | '<', '=' => some .atMost
  | '>', '=' => some .atLeast
  | '=', '=' => some .equal
  | '!', '=' => some .unequal
  | _, _ => none

/-- A symbol, bracket or comma of one character. -/
def shortSymbol? : Char → Option Token
  | '-' => some (.symbol .minus)
  | '+' => some (.symbol .plus)
  | '*' => some (.symbol .times)
  | '/' => some (.symbol .divide)
  | '%' => some (.symbol .remainder)
  | '<' => some (.symbol .less)
  | '>' => some (.symbol .greater)
  | '!' => some (.symbol .not)
  | '?' => some (.symbol .question)
  | ':' => some (.symbol .colon)
  | '(' => some .openParen
  | ')' => some .closeParen
  | '[' => some .openBracket
  | ']' => some .closeBracket
  | ',' => some .comma
  | _ => none

/-- The symbol that a text starts with, the longer one first. -/
def symbol? : List Char → Option Lexeme
  | [] => none
  | [c] => (shortSymbol? c).map fun t => ⟨some t, [c], []⟩
  | c :: d :: cs =>
    match longSymbol? c d with
    | some s => some ⟨some (.symbol s), [c, d], cs⟩
    | none => (shortSymbol? c).map fun t => ⟨some t, [c], d :: cs⟩

/-- The lexeme that a text starts with. -/
def lexeme? (cs : List Char) : Option Lexeme :=
  (blanks? cs).or ((number? cs).or ((quotedText? cs).or ((name? cs).or (symbol? cs))))

/-- The tokens of a text from a position on. The first `skip` characters belong to a lexeme
that has been read already. A failure is a character and its position. -/
def scan (skip position : Nat) : List Char → Except (Char × Nat) (List Placed)
  | [] => .ok [⟨.finish, position⟩]
  | c :: cs =>
    match skip with
    | skip + 1 => scan skip (position + 1) cs
    | 0 =>
      match lexeme? (c :: cs) with
      | none => .error (c, position)
      | some l =>
        match scan (l.taken.length - 1) (position + 1) cs, l.token with
        | .error e, _ => .error e
        | .ok tokens, none => .ok tokens
        | .ok tokens, some t => .ok (⟨t, position⟩ :: tokens)

end SystemDynamics.Lexer

namespace SystemDynamics

/-- The tokens of a text, the end of the text the last of them. -/
def tokenize (text : String) : Except SyntaxError (List Placed) :=
  match Lexer.scan 0 0 text.toList with
  | .ok tokens => .ok tokens
  | .error (c, position) => .error (.located (.unexpectedCharacter c) text position)

end SystemDynamics
