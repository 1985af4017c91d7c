import SystemDynamics.Settings.Yaml.Block
import SystemDynamics.Settings.Yaml.Scalar
import SystemDynamics.Settings.Yaml.Token
/-!
# Directives, anchors and tags

A directive stands on a line of its own before a document. An anchor names a value, and a
reference stands for the value of that name. A tag says what a value is meant to be; it is made of
a handle, whose meaning a directive may give, and an ending.
-/

namespace SystemDynamics.Yaml

/-- Whether a name may hold the character. -/
def isNameChar (c : Char) : Bool := c.isAlphanum || c = '-' || c = '_'

/-- What names the character that was found instead of a name's. -/
def nameCharacter : String := "alphabetic or numeric character"

/-- What may stand behind the name of an anchor, apart from what ends a token. -/
def nameEnds : List Char := ['?', ':', ',', ']', '\x7d', '%', '@', '`']

/-- The anchor or the reference that stands at a cursor, and the cursor behind it. -/
def anchorAt (p : Cursor) : Except Problem (Lexeme × Cursor) :=
  let isReference := p.head? = some '*'
  let name := (p.advance 1).rest.takeWhile isNameChar
  let q := p.advance (name.length + 1)
  if name.isEmpty || !(endsToken q.rest || q.head?.any nameEnds.contains) then
    let activity := if isReference then "while scanning an alias" else "while scanning an anchor"
    refuse (.expected activity p.place nameCharacter q.head?) q.place
  else
    let s := String.ofList name
    .ok (if isReference then .reference s else .anchor s, q)

/-- The characters that the ending of a tag may hold besides letters and digits. -/
def endingChars : List Char := "-;/?:@&=+$,_.!~*'()[]%".toList

/-- The characters that the codes behind percent signs write together, and the cursor behind
them. The fuel bounds the codes. -/
def encoded (activity : String) (start : Place) : Nat → Cursor →
    Except Problem (List UInt8 × Cursor)
  | 0, p => .ok ([], p)
  | fuel + 1, p =>
    if p.head? ≠ some '%' then .ok ([], p)
    else
      let digits := ((p.advance 1).rest.take 2).takeWhile isHexDigit
      if digits.length < 2 then
        refuse (.expected activity start "URI escape sequence of 2 hexadecimal numbers"
          ((p.advance (digits.length + 1)).head?)) (p.advance 1).place
      else do
        let (bytes, q) ← encoded activity start fuel (p.advance 3)
        return ((inBase 16 digits).toUInt8 :: bytes, q)

/-- The ending of a tag that stands at a cursor, and the cursor behind it. The fuel bounds its
parts. -/
def endingFrom (place : String) (start : Place) :
    Nat → Cursor → Except Problem (String × Cursor)
  | 0, p => .ok ("", p)
  | fuel + 1, p =>
    let part := p.rest.takeWhile fun c => c ≠ '%' && (c.isAlphanum || endingChars.contains c)
    let q := p.advance part.length
    if q.head? = some '%' then do
      let activity := "while scanning a " ++ place
      let (bytes, r) ← encoded activity start (q.rest.length + 1) q
      match Text.decode bytes with
      | .error finding => refuse (.badCodes activity start bytes.length finding) q.place
      | .ok written => do
        let (more, r) ← endingFrom place start fuel r
        return (String.ofList (part ++ written) ++ more, r)
    else .ok (String.ofList part, q)

/-- The ending of a tag that stands at a cursor, which may not be empty. -/
def endingAt (place : String) (start : Place) (p : Cursor) : Except Problem (String × Cursor) := do
  let (ending, q) ← endingFrom place start (p.rest.length + 1) p
  if q.index = p.index then
    refuse (.expected ("while parsing a " ++ place) start "URI" q.head?) q.place
  else return (ending, q)

/-- The handle of a tag that stands at a cursor, and the cursor behind it. -/
def handleAt (place : String) (start : Place) (p : Cursor) : Except Problem (String × Cursor) :=
  let expected (q : Cursor) : Except Problem (String × Cursor) :=
    refuse (.expected ("while scanning a " ++ place) start "'!'" q.head?) q.place
  if p.head? ≠ some '!' then expected p
  else
    let q := p.advance 1
    let name := q.rest.takeWhile isNameChar
    let r := q.advance name.length
    if q.head? = some ' ' then .ok ("!", q)
    else if r.head? ≠ some '!' then expected r
    else .ok (String.ofList ('!' :: name ++ ['!']), r.advance 1)

/-- The tag that stands at a cursor, and the cursor behind it. -/
def tagAt (p : Cursor) : Except Problem (Lexeme × Cursor) := do
  let start := p.place
  let (tag, q) ←
    match p.rest.tail with
    | '<' :: _ => do
      let (ending, q) ← endingAt "tag" start (p.advance 2)
      if q.head? = some '>' then pure (Lexeme.tag none ending, q.advance 1)
      else refuse (.expected "while parsing a tag" start "'>'" q.head?) q.place
    | rest =>
      if endsToken rest then pure (Lexeme.tag none "!", p.advance 1)
      else if (rest.takeWhile fun c => !endsWord [c]).contains '!' then do
        let (handle, q) ← handleAt "tag" start p
        let (ending, q) ← endingAt "tag" start q
        pure (Lexeme.tag (some handle) ending, q)
      else do
        let (ending, q) ← endingAt "tag" start (p.advance 1)
        pure (Lexeme.tag (some "!") ending, q)
  if endsWord q.rest then return (tag, q)
  else refuse (.expected "while scanning a tag" start "' '" q.head?) q.place

/-- What messages name while a directive is read. -/
def directiveActivity : String := "while scanning a directive"

/-- A number of the version in a directive, and the cursor behind it. -/
def versionNumber (start : Place) (p : Cursor) : Except Problem (Nat × Cursor) := do
  let digits := p.rest.takeWhile Char.isDigit
  if digits.isEmpty then refuse (.expected directiveActivity start "a digit" p.head?) p.place
  else return ((← decimal digits).toNat, p.advance digits.length)

/-- The version in a directive, and the cursor behind it. -/
def versionAt (start : Place) (p : Cursor) : Except Problem (Lexeme × Cursor) := do
  let (major, q) ← versionNumber start (p.skipWhile (· = ' '))
  if q.head? ≠ some '.' then
    refuse (.expected directiveActivity start "a digit or '.'" q.head?) q.place
  else
    let (_, q) ← versionNumber start (q.advance 1)
    if endsWord q.rest then return (.version major, q)
    else refuse (.expected directiveActivity start "a digit or ' '" q.head?) q.place

/-- The handle and its meaning in a directive, and the cursor behind them. -/
def meaningAt (start : Place) (p : Cursor) : Except Problem (Lexeme × Cursor) := do
  let (handle, q) ← handleAt "directive" start (p.skipWhile (· = ' '))
  if q.head? ≠ some ' ' then refuse (.expected directiveActivity start "' '" q.head?) q.place
  else
    let (meaning, q) ← endingAt "directive" start (q.skipWhile (· = ' '))
    if endsWord q.rest then return (.handle handle meaning, q)
    else refuse (.expected directiveActivity start "' '" q.head?) q.place

/-- The directive that stands at a cursor, where it ends, and the cursor at the next line. -/
def directiveAt (p : Cursor) : Except Problem (Lexeme × Place × Cursor) := do
  let start := p.place
  let name := (p.advance 1).rest.takeWhile isNameChar
  let q := p.advance (name.length + 1)
  if name.isEmpty || !endsWord q.rest then
    refuse (.expected directiveActivity start nameCharacter q.head?) q.place
  else
    let (directive, q) ←
      match String.ofList name with
      | "YAML" => versionAt start q
      | "TAG" => meaningAt start q
      | _ => pure (Lexeme.otherDirective, q.skipWhile (!isBreak ·))
    return (directive, q.place, ← restOfLine directiveActivity start q)

end SystemDynamics.Yaml
