import SystemDynamics.Settings.Yaml.Plain
import SystemDynamics.Settings.Yaml.Property
import SystemDynamics.Settings.Yaml.Quoted
/-!
# Streams of tokens

The tokens of a document come one after the other. That something is a key shows only at the colon
behind it, on the same line and not too far away; a token that may be one is kept back until then,
since the tokens that begin the key and its mapping go before it.
-/

namespace SystemDynamics.Yaml

/-- A token that a key may begin with. -/
structure PossibleKey where
  /-- How many tokens go before it. -/
  number : Nat
  /-- How many openings of flow style it stands in. -/
  level : Nat
  /-- Whether it has to be a key, since a line of its mapping begins with it. -/
  isRequired : Bool
  place : Place

/-- The tokens that have been read, and what they come from. -/
structure TokenStream where
  cursor : Cursor
  /-- How many characters the document has. -/
  size : Nat
  /-- The tokens that wait to be taken. -/
  tokens : List Token := []
  /-- How many have been taken. -/
  taken : Nat := 0
  /-- How many openings of flow style have not been closed. -/
  level : Nat := 0
  /-- The column of the innermost block, and those of the blocks around it. -/
  indent : Int := -1
  outer : List Int := []
  /-- Whether a key may stand at the cursor. -/
  allowsKey : Bool := true
  keys : List PossibleKey := []
  /-- The end of what has been looked at. -/
  reached : Nat := 0
  isFinished : Bool := false

/-- Why reading stops, and the end of what has been looked at by then. -/
structure Halt where
  problem : Problem
  reached : Nat

/-- How far the colon may be from the beginning of its key. -/
def keyLimit : Nat := 1024

namespace TokenStream

def inFlow (s : TokenStream) : Bool := s.level != 0

/-- The flaw that a key is none which has to be one. -/
def noColon {α : Type} (s : TokenStream) (k : PossibleKey) : Except Problem α :=
  refuse (.noColon k.place) s.cursor.place

/-- The stream without those possible keys. -/
def dropKeys (p : PossibleKey → Bool) (s : TokenStream) : Except Problem TokenStream :=
  match s.keys.find? fun k => p k && k.isRequired with
  | some k => s.noColon k
  | none => .ok { s with keys := s.keys.filter (!p ·) }

/-- The stream without the possible keys whose colon can no longer follow. -/
def dropStaleKeys (s : TokenStream) : Except Problem TokenStream :=
  s.dropKeys fun k =>
    k.place.line != s.cursor.place.line || keyLimit < s.cursor.index - k.place.index

/-- The stream without the possible key of the level. -/
def dropKey (s : TokenStream) : Except Problem TokenStream := s.dropKeys (·.level == s.level)

/-- The stream where the next token may be a key, if one may stand here. -/
def saveKey (s : TokenStream) : Except Problem TokenStream :=
  if s.allowsKey then do
    let s ← s.dropKey
    let key : PossibleKey :=
      { number := s.taken + s.tokens.length
        level := s.level
        isRequired := !s.inFlow && s.indent == s.cursor.place.column
        place := s.cursor.place }
    return { s with keys := key :: s.keys }
  else return s

/-- The stream with one more token. -/
def push (lexeme : Lexeme) (start stop : Place) (s : TokenStream) : TokenStream :=
  { s with tokens := s.tokens ++ [⟨lexeme, start, stop⟩] }

/-- The stream with one more token that takes no characters. -/
def pushHere (lexeme : Lexeme) (s : TokenStream) : TokenStream :=
  s.push lexeme s.cursor.place s.cursor.place

/-- The stream with one more token of some characters. -/
def pushMark (lexeme : Lexeme) (length : Nat) (s : TokenStream) : TokenStream :=
  let q := s.cursor.advance length
  { s.push lexeme s.cursor.place q.place with cursor := q }

/-- The stream with a token in front of the one of that number. -/
def insert (number : Nat) (lexeme : Lexeme) (place : Place) (s : TokenStream) : TokenStream :=
  let before := number - s.taken
  { s with tokens := s.tokens.take before ++ ⟨lexeme, place, place⟩ :: s.tokens.drop before }

/-- The stream behind the ends of all blocks that are indented more than to a column. -/
def closeBlocks (column : Int) (s : TokenStream) : TokenStream :=
  if s.inFlow then s
  else
    let isInner := fun n : Int => decide (column < n)
    let closed := (s.indent :: s.outer).takeWhile isInner
    match (s.indent :: s.outer).dropWhile isInner with
    | [] => s
    | indent :: outer =>
      { closed.foldl (fun s _ => s.pushHere .blockEnd) s with indent, outer }

/-- Whether a block begins at a column, and the stream within it. -/
def openBlock (column : Nat) (s : TokenStream) : Bool × TokenStream :=
  if s.indent < column then (true, { s with indent := column, outer := s.indent :: s.outer })
  else (false, s)

/-- The stream within the block at the cursor. -/
def openBlockHere (lexeme : Lexeme) (s : TokenStream) : TokenStream :=
  let (isNew, s) := s.openBlock s.cursor.place.column
  if isNew then s.pushHere lexeme else s

/-- The stream behind all blocks, where no key may stand. -/
def leaveBlocks (s : TokenStream) : Except Problem TokenStream := do
  return { ← (s.closeBlocks (-1)).dropKey with allowsKey := false }

/-- Reads the end of the document. -/
def readEnd (s : TokenStream) : Except Problem TokenStream := do
  let s ← s.leaveBlocks
  return { s.pushHere .streamEnd with keys := [], isFinished := true }

/-- Reads a directive. -/
def readDirective (s : TokenStream) : Except Problem TokenStream := do
  let s ← s.leaveBlocks
  let (lexeme, stop, q) ← directiveAt s.cursor
  return { s.push lexeme s.cursor.place stop with cursor := q }

/-- Reads a mark between documents. -/
def readSeparator (lexeme : Lexeme) (s : TokenStream) : Except Problem TokenStream := do
  return (← s.leaveBlocks).pushMark lexeme 3

/-- Reads an opening of flow style, with which a key may begin. -/
def readOpening (lexeme : Lexeme) (s : TokenStream) : Except Problem TokenStream := do
  let s ← s.saveKey
  return { s with level := s.level + 1, allowsKey := true }.pushMark lexeme 1

/-- Reads a closing of flow style. -/
def readClosing (lexeme : Lexeme) (s : TokenStream) : Except Problem TokenStream := do
  let s ← s.dropKey
  return { s with level := s.level - 1, allowsKey := false }.pushMark lexeme 1

/-- Reads the mark of an item in flow style. -/
def readComma (s : TokenStream) : Except Problem TokenStream := do
  let s ← s.dropKey
  return { s with allowsKey := true }.pushMark .comma 1

/-- Reads the mark of an item in block style. -/
def readItem (s : TokenStream) : Except Problem TokenStream := do
  if !s.inFlow && !s.allowsKey then
    refuse (.notAllowed "sequence entries") s.cursor.place
  else
    let s := if s.inFlow then s else s.openBlockHere .listStart
    let s ← { s with allowsKey := true }.dropKey
    return s.pushMark .item 1

/-- Reads the mark of a key. -/
def readKey (s : TokenStream) : Except Problem TokenStream := do
  if !s.inFlow && !s.allowsKey then
    refuse (.notAllowed "mapping keys") s.cursor.place
  else
    let s := if s.inFlow then s else s.openBlockHere .mappingStart
    let s ← { s with allowsKey := !s.inFlow }.dropKey
    return s.pushMark .key 1

/-- Reads the colon between a key and its value. The tokens that begin the key, and perhaps its
mapping, go in front of what turns out to be the key. -/
def readValue (s : TokenStream) : Except Problem TokenStream :=
  match s.keys.find? (·.level == s.level) with
  | some k =>
    let s := { s with keys := s.keys.filter (·.level != s.level), allowsKey := false }
    let s := s.insert k.number .key k.place
    let (isNew, s) := if s.inFlow then (false, s) else s.openBlock k.place.column
    let s := if isNew then s.insert k.number .mappingStart k.place else s
    .ok (s.pushMark .value 1)
  | none =>
    if !s.inFlow && !s.allowsKey then
      refuse (.notAllowed "mapping values") s.cursor.place
    else
      let s := if s.inFlow then s else s.openBlockHere .mappingStart
      .ok ({ s with allowsKey := !s.inFlow }.pushMark .value 1)

/-- Reads a token that a key may begin with. -/
def readProperty (read : Cursor → Except Problem (Lexeme × Cursor)) (s : TokenStream) :
    Except Problem TokenStream := do
  let s ← s.saveKey
  let (lexeme, q) ← read s.cursor
  return { s.push lexeme s.cursor.place q.place with cursor := q, allowsKey := false }

/-- Reads a scalar in quotes. -/
def readQuoted (s : TokenStream) : Except Problem TokenStream :=
  s.readProperty fun p => do
    let (text, q) ← quotedScalar p
    return (.scalar text false, q)

/-- Reads a plain scalar. A key may stand behind it if that begins a line. -/
def readPlain (s : TokenStream) : Except Problem TokenStream := do
  let s ← s.saveKey
  let (text, endsBehindLine, q) :=
    plainScalar s.inFlow (s.indent + 1).toNat (s.cursor.rest.length + 1) s.cursor
  let s := s.push (.scalar (String.ofList text) true) s.cursor.place q.place
  let ahead := if endsBehindLine then 2 else if q.head? = some ':' then 1 else 0
  let reached := max s.reached (q.index + ahead)
  return { s with cursor := q, allowsKey := endsBehindLine, reached }

/-- Reads a scalar of whole lines. -/
def readBlockScalar (s : TokenStream) : Except Problem TokenStream := do
  let s ← { s with allowsKey := true }.dropKey
  let (text, q) ← blockScalar (max 1 (s.indent + 1).toNat) s.cursor
  let s := s.push (.scalar (String.ofList text) false) s.cursor.place q.place
  return { s with cursor := q }

/-- How many characters at a cursor are looked at, besides those of the token itself, to tell what
the token is. -/
def sight (p : Cursor) : Nat :=
  match p.rest with
  | '!' :: '<' :: _ => 1
  | '!' :: cs => (cs.takeWhile fun c => c ≠ '!' && !endsWord [c]).length + 1
  | c :: _ => if p.place.column == 0 && (c = '-' || c = '.') then 2 else 0
  | [] => 0

/-- The stream at the next token, behind the blocks that end before it. -/
def skip (s : TokenStream) : Except Problem TokenStream := do
  let p := s.cursor.skip
  let newLine := p.place.line != s.cursor.place.line && !s.inFlow
  let s ← { s with cursor := p, allowsKey := s.allowsKey || newLine }.dropStaleKeys
  let s := s.closeBlocks p.place.column
  return { s with reached := max s.reached (p.index + sight p) }

/-- Reads the token at the cursor. -/
def readHere (s : TokenStream) : Except Problem TokenStream :=
  let p := s.cursor
  match p.rest with
  | [] => s.readEnd
  | c :: cs =>
    let isFree := endsToken cs
    if c = '%' && p.place.column == 0 then s.readDirective
    else if p.isAtSeparator then s.readSeparator (if c = '-' then .documentStart else .documentEnd)
    else
      match c with
      | '[' => s.readOpening .openBracket
      | '\x7b' => s.readOpening .openBrace
      | ']' => s.readClosing .closeBracket
      | '\x7d' => s.readClosing .closeBrace
      | ',' => s.readComma
      | '*' | '&' => s.readProperty anchorAt
      | '!' => s.readProperty tagAt
      | '\'' | '"' => s.readQuoted
      | _ =>
        if c = '-' && isFree then s.readItem
        else if c = '?' && (s.inFlow || isFree) then s.readKey
        else if c = ':' && (s.inFlow || isFree) then s.readValue
        else if (c = '|' || c = '>') && !s.inFlow then s.readBlockScalar
        else if beginsPlain s.inFlow p.rest then s.readPlain
        else refuse (.noToken (some c)) p.place

/-- The end of what has been looked at. -/
def reach (s : TokenStream) : Nat := max s.reached s.cursor.index

/-- Why reading stops at a problem, and what has been looked at by then. -/
def halt (s : TokenStream) (problem : Problem) : Halt :=
  let sight := problem.reach?.getD s.size
  ⟨problem, max sight s.reach⟩

/-- Reads the next token. -/
def read (s : TokenStream) : Except Halt TokenStream := do
  let s ← s.skip.mapError s.halt
  s.readHere.mapError s.halt

/-- The stream where the next token can be taken: none of those that wait may get one in front
of it. The fuel bounds the tokens. -/
def fill : Nat → TokenStream → Except Halt TokenStream
  | 0, s => .ok s
  | fuel + 1, s =>
    if s.isFinished then .ok s
    else if s.tokens.isEmpty then do fill fuel (← s.read)
    else do
      let s ← s.dropStaleKeys.mapError s.halt
      if s.keys.any (·.number == s.taken) then fill fuel (← s.read) else return s

/-- The next token, if there is one, and the stream that still holds it. -/
def next? (s : TokenStream) : Except Halt (Option Token × TokenStream) := do
  let s ← s.fill (s.size + 2)
  return (s.tokens.head?, s)

/-- The stream behind its next token. -/
def take (s : TokenStream) : TokenStream :=
  { s with tokens := s.tokens.tail, taken := s.taken + 1 }

end TokenStream

end SystemDynamics.Yaml
