import SystemDynamics.Settings.Yaml.Problem
/-!
# Plain scalars

A plain scalar stands for itself without quotes. It is made of pieces between gaps; a gap is blanks
within a line, or line ends with the blanks around them. It ends at a colon or a number sign that
is one of the document's own, at a line that is not indented enough, and in flow style at a mark
of that style.
-/

namespace SystemDynamics.Yaml

/-- The marks of flow style. -/
def flowMarks : List Char := [',', '[', ']', '\x7b', '\x7d']

/-- Whether a piece of a plain scalar ends here. -/
def endsPiece (inFlow : Bool) : List Char → Bool
  | [] => true
  | c :: cs =>
    isSpace c || isBreak c ||
      (c = ':' && (endsToken cs || (inFlow && cs.head?.any (flowMarks.contains ·)))) ||
      (inFlow && (c = '?' || flowMarks.contains c))

/-- The piece of a plain scalar that a text starts with. -/
def piece (inFlow : Bool) : List Char → List Char
  | [] => []
  | c :: cs => if endsPiece inFlow (c :: cs) then [] else c :: piece inFlow cs

/-- How many blanks and line ends a text starts with, up to a mark between documents; `atStart`
tells whether a line begins here. -/
def blankLength (atStart : Bool) : List Char → Nat
  | [] => 0
  | c :: cs =>
    if atStart && isSeparator (c :: cs) then 0
    else if isBreak c then blankLength true cs + 1
    else if c = ' ' then blankLength false cs + 1
    else 0

/-- What stands between two pieces of a plain scalar. -/
structure Gap where
  /-- What it leaves in the scalar; nothing if no piece can follow. -/
  text : List Char
  hasLineEnd : Bool
  behind : Cursor

/-- The gap that stands at a cursor. -/
def gapAt (p : Cursor) : Gap :=
  let blanks := p.rest.takeWhile (· = ' ')
  let q := p.advance blanks.length
  match q.rest with
  | c :: cs =>
    if isBreak c then
      let length := blankLength true cs
      let r := q.advance (length + 1)
      ⟨if r.isAtSeparator then [] else folded c (lineEnds (cs.take length)), true, r⟩
    else ⟨blanks, false, q⟩
  | [] => ⟨blanks, false, q⟩

/-- The plain scalar that stands at a cursor, whether it ends behind a line end, and the cursor at
what follows. Its further lines are indented at least as much as asked for; the fuel bounds its
pieces. -/
def plainScalar (inFlow : Bool) (indent : Nat) : Nat → Cursor → List Char × Bool × Cursor
  | 0, p => ([], false, p)
  | fuel + 1, p =>
    let text := piece inFlow p.rest
    let gap := gapAt (p.advance text.length)
    let q := gap.behind
    if gap.text.isEmpty || q.head? = some '#' || (!inFlow && q.place.column < indent) ||
        endsPiece inFlow q.rest then
      (text, gap.hasLineEnd, q)
    else
      let (more, endsBehindLine, q) := plainScalar inFlow indent fuel q
      (text ++ gap.text ++ more, endsBehindLine, q)

/-- The characters that no plain scalar begins with, unless more follows for three of them. -/
def indicators : List Char :=
  ['-', '?', ':', ',', '[', ']', '\x7b', '\x7d', '#', '&', '*', '!', '|', '>', '\'', '"', '%', '@',
    '`']

/-- Whether a plain scalar begins here. -/
def beginsPlain (inFlow : Bool) : List Char → Bool
  | [] => false
  | c :: cs =>
    !(isSpace c || isBreak c) &&
      (!indicators.contains c ||
        (!endsToken cs && (c = '-' || (!inFlow && (c = '?' || c = ':')))))

end SystemDynamics.Yaml
