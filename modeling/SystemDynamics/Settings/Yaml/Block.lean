import SystemDynamics.Settings.Yaml.Problem
/-!
# Block scalars

A block scalar is made of whole lines that are indented alike. Its header tells whether its line
ends are kept or folded, what becomes of the last of them, and perhaps how far it is indented.
-/

namespace SystemDynamics.Yaml

/-- What becomes of the line ends behind the last line. -/
inductive Chomping where
  /-- None is kept. -/
  | strip
  /-- One is kept. -/
  | clip
  /-- All are kept. -/
  | keep

/-- The chomping that a mark of the header asks for. -/
def chompingOf? : Char → Option Chomping
  | '+' => some .keep
  | '-' => some .strip
  | _ => none

/-- The digit that a text starts with, which may not be zero, and the cursor behind it. -/
def indentation? (scalar : Place) (p : Cursor) : Except Problem (Option Nat × Cursor) :=
  match p.head? with
  | some c =>
    if c = '0' then refuse (.zeroIndentation scalar) p.place
    else if c.isDigit then .ok (some (c.toNat - '0'.toNat), p.advance 1)
    else .ok (none, p)
  | none => .ok (none, p)

/-- The chomping and the indentation of a header, in either order, and the cursor behind them. -/
def indicatorsAt (scalar : Place) (p : Cursor) :
    Except Problem (Chomping × Option Nat × Cursor) :=
  match p.head?.bind chompingOf? with
  | some chomping => do
    let (indent, p) ← indentation? scalar (p.advance 1)
    return (chomping, indent, p)
  | none => do
    let (indent, p) ← indentation? scalar p
    match indent, p.head?.bind chompingOf? with
    | some _, some chomping => return (chomping, indent, p.advance 1)
    | _, _ => return (.clip, indent, p)

/-- The cursor at the next line, with nothing but blanks and a comment before it. -/
def restOfLine (activity : String) (start : Place) (p : Cursor) : Except Problem Cursor :=
  let p := p.skipWhile (· = ' ')
  let p := if p.head? = some '#' then p.skipWhile (!isBreak ·) else p
  if endsLine p.rest then .ok (p.advance 1)
  else refuse (.expected activity start "a comment or a line break" p.head?) p.place

/-- The line ends that stand before the first line, how far any blanks among them reach, and the
cursor at the first line. -/
def leadingLines (p : Cursor) : List Char × Nat × Cursor :=
  let blanks := p.rest.takeWhile fun c => c = ' ' || isBreak c
  let reach := fun (place, widest) c =>
    let place := Place.after c place
    (place, max widest place.column)
  (lineEnds blanks, (blanks.foldl reach (p.place, 0)).2, p.advance blanks.length)

/-- How many blanks and line ends a text starts with, blanks only up to a column. -/
def indentLength (indent column : Nat) : List Char → Nat
  | [] => 0
  | c :: cs =>
    if isBreak c then indentLength indent 0 cs + 1
    else if c = ' ' && column < indent then indentLength indent (column + 1) cs + 1
    else 0

/-- The line ends before the next line, and the cursor at that line. -/
def emptyLines (indent : Nat) (p : Cursor) : List Char × Cursor :=
  let length := indentLength indent p.place.column p.rest
  (lineEnds (p.rest.take length), p.advance length)

/-- The lines of a block scalar, what ends the last of them, and the line ends behind that. -/
structure Lines where
  text : List Char
  lastEnd : List Char
  further : List Char
  behind : Cursor

/-- The lines at a cursor, behind the line ends before them. The fuel bounds the lines. -/
def linesAt (folds : Bool) (indent : Nat) : Nat → List Char → Cursor → Lines
  | 0, before, p => ⟨[], [], before, p⟩
  | fuel + 1, before, p =>
    if p.place.column ≠ indent ∨ p.rest.isEmpty then ⟨[], [], before, p⟩
    else
      let line := p.rest.takeWhile (!isBreak ·)
      let q := p.advance line.length
      let lastEnd := lineEnds (q.rest.take 1)
      let (further, q) := emptyLines indent (q.advance 1)
      if q.place.column ≠ indent ∨ q.rest.isEmpty then ⟨before ++ line, lastEnd, further, q⟩
      else
        let isFolded := folds && lastEnd = ['\n'] &&
          !line.head?.any isSpace && !q.head?.any isSpace
        let joint := if !isFolded then lastEnd else if further.isEmpty then [' '] else []
        let more := linesAt folds indent fuel further q
        { more with text := before ++ line ++ joint ++ more.text }

/-- The block scalar that stands at a cursor, whose lines are indented at least as much as asked
for, and the cursor behind it. -/
def blockScalar (least : Nat) (p : Cursor) : Except Problem (List Char × Cursor) := do
  let start := p.place
  let (chomping, increment, q) ← indicatorsAt start (p.advance 1)
  let activity := "while scanning a block scalar"
  if !endsWord q.rest then
    refuse (.expected activity start "chomping or indentation indicators" q.head?) q.place
  else
    let q ← restOfLine activity start q
    let (before, indent, q) :=
      match increment with
      | none =>
        let (before, widest, q) := leadingLines q
        (before, max least widest, q)
      | some increment =>
        let indent := least + increment - 1
        let (before, q) := emptyLines indent q
        (before, indent, q)
    let lines := linesAt (p.head? = some '>') indent (q.rest.length + 1) before q
    let tail :=
      match chomping with
      | .strip => []
      | .clip => lines.lastEnd
      | .keep => lines.lastEnd ++ lines.further
    return (lines.text ++ tail, lines.behind)

end SystemDynamics.Yaml
