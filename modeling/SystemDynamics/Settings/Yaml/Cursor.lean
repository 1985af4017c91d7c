/-!
# Places in a document

A document is read from its beginning to its end. A cursor is what is left of it, together with
the place where that begins.
-/

namespace SystemDynamics.Yaml

/-- Whether a line ends here. -/
def isBreak (c : Char) : Bool :=
  c = '\n' || c = '\r' || c = '\x85' || c = '\u2028' || c = '\u2029'

def isSpace (c : Char) : Bool := c = ' ' || c = '\t'

/-- Whether a token may end here: at a blank, a line end or the end. -/
def endsToken : List Char → Bool
  | [] => true
  | c :: _ => isSpace c || isBreak c

/-- Whether a word may end here, which a tab is no end of. -/
def endsWord : List Char → Bool
  | [] => true
  | c :: _ => c = ' ' || isBreak c

/-- Whether a line ends here, or the document. -/
def endsLine : List Char → Bool
  | [] => true
  | c :: _ => isBreak c

/-- Whether a line that begins here is a mark between documents. -/
def isSeparator : List Char → Bool
  | '-' :: '-' :: '-' :: rest | '.' :: '.' :: '.' :: rest => endsToken rest
  | _ => false

/-- How many characters stand before a place, and its line and column, both counted from zero. -/
structure Place where
  index : Nat
  line : Nat
  column : Nat
  deriving DecidableEq

namespace Place

/-- The place behind a character. A mark of the byte order takes no column. -/
def after (c : Char) (p : Place) : Place :=
  let index := p.index + 1
  if isBreak c then ⟨index, p.line + 1, 0⟩
  else if c = '\ufeff' then { p with index }
  else ⟨index, p.line, p.column + 1⟩

/-- Whether messages name two places alike. -/
def looksLike (p q : Place) : Bool := p.line == q.line && p.column == q.column

/-- The place as messages name it. -/
def describe (path : String) (p : Place) : String :=
  "  in \"" ++ path ++ "\", line " ++ toString (p.line + 1) ++ ", column " ++
    toString (p.column + 1)

end Place

/-- What is left of a document, and where it begins. -/
structure Cursor where
  rest : List Char
  place : Place

namespace Cursor

/-- How many characters stand before the cursor. -/
def index (p : Cursor) : Nat := p.place.index

/-- The character that stands here, none at the end. -/
def head? (p : Cursor) : Option Char := p.rest.head?

/-- The cursor behind the first characters. -/
def advance : Nat → Cursor → Cursor
  | 0, p => p
  | n + 1, p =>
    match p.rest with
    | [] => p
    | c :: rest => advance n ⟨rest, p.place.after c⟩

/-- The cursor behind all characters of a kind. -/
def skipWhile (f : Char → Bool) (p : Cursor) : Cursor :=
  p.advance (p.rest.takeWhile f).length

/-- Whether a mark between documents stands here. -/
def isAtSeparator (p : Cursor) : Bool := p.place.column == 0 && isSeparator p.rest

end Cursor

/-- How many characters of blanks, comments and line ends a text starts with. -/
def gapLength (inComment : Bool) : List Char → Nat
  | [] => 0
  | c :: cs =>
    if isBreak c then gapLength false cs + 1
    else if inComment || c = '#' then gapLength true cs + 1
    else if c = ' ' then gapLength false cs + 1
    else 0

/-- The cursor at the next token. -/
def Cursor.skip (p : Cursor) : Cursor := p.advance (gapLength false p.rest)

/-- A line end as it is kept. -/
def lineEnd (c : Char) : Char := if c = '\u2028' || c = '\u2029' then c else '\n'

/-- The line ends in a text, as they are kept. -/
def lineEnds (cs : List Char) : List Char := (cs.filter isBreak).map lineEnd

/-- What a gap at line ends leaves: one blank for a single line end, else the further ones. -/
def folded (first : Char) (others : List Char) : List Char :=
  if lineEnd first ≠ '\n' then lineEnd first :: others
  else if others.isEmpty then [' ']
  else others

end SystemDynamics.Yaml
