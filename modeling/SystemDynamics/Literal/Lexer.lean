import SystemDynamics.Literal.Numeral
import SystemDynamics.Text.NameCharacter
import SystemDynamics.Text.Printable
/-!
# Tokens of literals

A text is cut into names, numbers, quoted texts and signs, one token at a time, so that a flaw
further on does not matter before its token is asked for. Brackets are matched on the way, and
every token says how many are open behind it.
-/

namespace SystemDynamics.Literal

/-- What a token is. Keywords and signs are told by what is written. -/
inductive Symbol where
  | name
  | number
  | text
  | fixed (written : String)
  | stray
  | lineEnd
  | finish
  deriving DecidableEq, Repr

structure Token where
  symbol : Symbol
  /-- What is written, where the symbol does not say it. -/
  written : List Char
  /-- How many brackets are open behind the token. -/
  depth : Nat
  deriving DecidableEq, Repr

def keywords : List String :=
  ["False", "None", "True", "and", "as", "assert", "async", "await", "break", "class", "continue",
   "def", "del", "elif", "else", "except", "finally", "for", "from", "global", "if", "import",
   "in", "is", "lambda", "nonlocal", "not", "or", "pass", "raise", "return", "try", "while",
   "with", "yield"]

/-- The signs of three characters, of two and of one. -/
def longSigns : List String := ["**=", "...", "//=", "<<=", ">>="]

def pairSigns : List String :=
  ["!=", "%=", "&=", "**", "*=", "+=", "-=", "->", "//", "/=", ":=", "<<", "<=", "<>", "==", ">=",
   ">>", "@=", "^=", "|="]

def signs : String := "%&()*+,-./:;<=>@[]^\x7b|\x7d~"

/-- A text that is cut into tokens: what is left, and the brackets that are open, the last
first. -/
structure Lexer where
  rest : List Char
  opened : List Char

/-- Why there is no next token: what comes is written wrong, or the text ends too early. Only the
first matters if the token is not needed. -/
inductive Lexer.Halt where
  | broken (flaw : Flaw)
  | ended (flaw : Flaw)
  deriving DecidableEq, Repr

namespace Lexer

/-- The most brackets that may be open. -/
def mostBrackets : Nat := 200

/-- The letters in front of a quoted text that say how it is written. -/
def textMarks : List String := ["b", "u", "r", "f", "br", "rb", "fr", "rf"]

def isTextMark (word : List Char) : Bool :=
  textMarks.contains (String.ofList (word.map Char.toLower))

/-- What is left behind blanks and a comment; between brackets the ends of lines are blank too. -/
def skip (between inComment : Bool) : List Char → List Char
  | [] => []
  | c :: cs =>
    if c = '\n' then if between then skip between false cs else c :: cs
    else if inComment || c = '#' then skip between true cs
    else if c = ' ' || c = '\t' || c = '\x0c' then skip between false cs
    else c :: cs

/-- What is left behind the end of a text in single quotes, which ends on its line. -/
def shortEnd? (quote : Char) : List Char → Option (List Char)
  | [] => none
  | ['\\'] => none
  | '\\' :: _ :: cs => shortEnd? quote cs
  | c :: cs =>
    if c = quote then some cs else if c = '\n' then none else shortEnd? quote cs

/-- What is left behind the end of a text in triple quotes. -/
def longEnd? (quote : Char) : List Char → Option (List Char)
  | '\\' :: _ :: cs => longEnd? quote cs
  | c :: cs =>
    if [quote, quote, quote].isPrefixOf (c :: cs) then some (cs.drop 2) else longEnd? quote cs
  | [] => none

/-- What is left behind a quoted text, its first quote being read. -/
def textEnd (quote : Char) (cs : List Char) : Except Flaw (List Char) :=
  let long := [quote, quote].isPrefixOf cs
  match if long then longEnd? quote (cs.drop 2) else shortEnd? quote cs with
  | some rest => .ok rest
  | none => .error (.openText long)

/-- Whether a word that is not all ASCII is a name. -/
def checkName (word : List Char) : Except Flaw Unit :=
  let foreign := match word with
    | [] => none
    | c :: cs => if Text.startsName c then cs.find? fun c => !Text.isNamePart c else some c
  match foreign with
  | none => .ok ()
  | some c => .error (if Text.isPrintable c then .badCharacter c else .hiddenCharacter c)

/-- The bracket that closes another. -/
def closingOf (c : Char) : Char := if c = '(' then ')' else if c = '[' then ']' else '\x7d'

/-- The open brackets behind a sign of one character. -/
def bracket (opened : List Char) (c : Char) : Except Flaw (List Char) :=
  if ['(', '[', '\x7b'].contains c then
    if mostBrackets ≤ opened.length then .error .tooManyBrackets else .ok (c :: opened)
  else if [')', ']', '\x7d'].contains c then
    match opened with
    | [] => .error (.unmatched c)
    | o :: outer => if closingOf o = c then .ok outer else .error (.mismatched c o)
  else if Text.isPrintable c then .ok opened
  else .error (.hiddenCharacter c)

/-- The sign that a text starts with, if it has more than one character. -/
def longSign? (cs : List Char) : Option String :=
  (longSigns ++ pairSigns).find? fun s => s.toList.isPrefixOf cs

/-- The token of a word: a keyword or a name. -/
def word (written rest opened : List Char) : Except Flaw (Token × Lexer) := do
  if written.any fun c => 0x80 ≤ c.toNat then checkName written
  let fixed := String.ofList written
  let symbol := if keywords.contains fixed then .fixed fixed else .name
  return (⟨symbol, written, opened.length⟩, ⟨rest, opened⟩)

/-- The token that a text starts with, which is not blank. -/
def tokenOf (opened : List Char) (c : Char) (behind : List Char) : Except Flaw (Token × Lexer) := do
  let cs := c :: behind
  let depth := opened.length
  let token (symbol : Symbol) (rest : List Char) : Token × Lexer :=
    (⟨symbol, cs.take (cs.length - rest.length), depth⟩, ⟨rest, opened⟩)
  let letters := cs.takeWhile isWordPart
  if c = '\n' then return (⟨.lineEnd, [], depth⟩, ⟨behind, opened⟩)
  else if c = '\'' || c = '"' then return token .text (← textEnd c behind)
  else if c.isDigit || (c = '.' && behind.head?.any Char.isDigit) then
    return token .number (← Numeral.rest cs)
  else if letters ≠ [] then
    let rest := cs.drop letters.length
    match rest with
    | quote :: inside =>
      if (quote = '\'' || quote = '"') && isTextMark letters then
        return token .text (← textEnd quote inside)
      else word letters rest opened
    | [] => word letters rest opened
  else
    match longSign? cs with
    | some s => return (⟨.fixed s, [], depth⟩, ⟨cs.drop s.length, opened⟩)
    | none =>
      let opened ← bracket opened c
      let symbol := if signs.toList.contains c then .fixed (String.ofList [c]) else .stray
      return (⟨symbol, [], opened.length⟩, ⟨behind, opened⟩)

/-- The next token, and the text behind it. -/
def next (l : Lexer) : Except Halt (Token × Lexer) :=
  match skip (l.opened ≠ []) false l.rest, l.opened with
  | [], [] => .ok (⟨.finish, [], 0⟩, ⟨[], []⟩)
  | [], o :: _ => .error (.ended (.neverClosed o))
  | c :: behind, opened =>
    if c = '\\' then .error (.ended .backslash) else (tokenOf opened c behind).mapError .broken

/-- The first flaw in what is left, whatever the tokens are for. -/
def flaw? (l : Lexer) : Option Flaw :=
  go (l.rest.length + 1) l
where
  /-- At most so many tokens are left. -/
  go : Nat → Lexer → Option Flaw
    | 0, _ => none
    | n + 1, l =>
      match l.next with
      | .ok (t, l) => if t.symbol = .finish then none else go n l
      | .error (.broken f) => some f
      | .error (.ended _) => none

end Lexer
end SystemDynamics.Literal
