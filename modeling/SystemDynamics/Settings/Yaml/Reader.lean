import SystemDynamics.Settings.Yaml.Node
import SystemDynamics.Settings.Yaml.Stream
/-!
# Reading nodes

The nodes of a document are read from its tokens, which are taken one by one. Reading stops at the
first that may not stand where it does. A node with an anchor is known by that as soon as it
begins.
-/

namespace SystemDynamics.Yaml

/-- An anchor, where it stands, and the number of its node. -/
structure Anchor where
  name : String
  place : Place
  node : Nat

/-- How far a document has been read. -/
structure Progress where
  stream : TokenStream
  /-- The handles of tags and their meanings. -/
  handles : List (String × String)
  anchors : List Anchor
  nodes : Graph

/-- Reading that takes tokens. -/
abbrev Reader := StateT Progress (Except Halt)

/-- The handles that need no directive. -/
def commonHandles : List (String × String) := [("!", "!"), ("!!", Tag.common)]

namespace Reader

/-- Stops at a problem. -/
def stop {α : Type} (problem : Problem) : Reader α := do throw ((← get).stream.halt problem)

/-- Stops at a flaw of the document in what has been read. -/
def refuse {α : Type} (flaw : Flaw) (place : Place) : Reader α := stop (.flawed flaw place)

/-- Stops where there is nothing left to read with. -/
def exhausted {α : Type} : Reader α := stop .unreadable

/-- The next token, which remains. -/
def next : Reader Token := do
  let (t?, stream) ← (← get).stream.next?
  modify ({ · with stream })
  match t? with
  | some t => return t
  | none => exhausted

/-- Takes the next token. -/
def take : Reader Unit := modify fun s => { s with stream := s.stream.take }

/-- The lexeme of the next token, which remains. -/
def lexeme : Reader Lexeme := return (← next).lexeme

/-- Whether the next token is one of those; it remains. -/
def isAt (lexemes : List Lexeme) : Reader Bool := return lexemes.contains (← lexeme)

/-- Takes the next token if it is that one. -/
def accept (l : Lexeme) : Reader Bool := do
  if ← isAt [l] then
    take
    return true
  else return false

/-- The node of an anchor. -/
def referredTo (name : String) (place : Place) : Reader Nat := do
  match (← get).anchors.find? (·.name == name) with
  | some anchor => return anchor.node
  | none => refuse (.unknownAlias name) place

/-- Adds a node, and gives its number. -/
def add (n : Node) : Reader Nat := do
  let id := (← get).nodes.size
  modify fun s => { s with nodes := s.nodes.push n }
  return id

/-- Adds the scalar that is not there. -/
def absent (place : Place) : Reader Nat := add (.absent place)

/-- Adds a node, and keeps its anchor, which has to be new. -/
def begin (anchor : Option String) (n : Node) : Reader Nat := do
  match anchor with
  | none => add n
  | some name =>
    match (← get).anchors.find? (·.name == name) with
    | some first => refuse (.secondAnchor name first.place) n.place
    | none =>
      let id ← add n
      modify fun s => { s with anchors := ⟨name, n.place, id⟩ :: s.anchors }
      return id

/-- Gives a node what it holds. -/
def fill (id : Nat) (body : Body) : Reader Unit :=
  modify fun s => { s with nodes := s.nodes.fill id body }

/-- What may stand before a node: an anchor and a tag, and where they begin. -/
structure Properties where
  anchor : Option String := none
  tag : Option (Option String × String) := none
  tagPlace : Place := ⟨0, 0, 0⟩

/-- Takes an anchor or a tag if there is none of its kind yet. -/
def property? (p : Properties) : Reader (Option Properties) := do
  let t ← next
  match t.lexeme, p.anchor, p.tag with
  | .anchor name, none, _ =>
    take
    return some { p with anchor := name }
  | .tag handle ending, _, none =>
    take
    return some { p with tag := some (handle, ending), tagPlace := t.start }
  | _, _, _ => return none

/-- Takes the anchor and the tag before a node, in either order. -/
def properties : Reader Properties := do
  match ← property? {} with
  | none => return {}
  | some p => return (← property? p).getD p

/-- The name of a tag, whose handle has to be known. -/
def tagName (node : Place) (p : Properties) : Reader (Option String) := do
  match p.tag with
  | none => return none
  | some (none, ending) => return some ending
  | some (some handle, ending) =>
    match (← get).handles.lookup handle with
    | some meaning => return some (meaning ++ ending)
    | none => refuse (.unknownHandle node handle) p.tagPlace

/-- The tag of that name, else the given one. -/
def tagOr (usual : Tag) : Option String → Tag
  | none | some "!" => usual
  | some name => .ofName name

/-- Takes the comma behind an item or an entry of what begins at a place in flow style. -/
def comma (what : String) (closing : Char) (start : Place) : Reader Unit := do
  let t ← next
  unless ← accept .comma do refuse (.unendedFlow what closing start t.lexeme.name) t.start

/-- Adds the list that begins here, and reads its items. -/
def listOf (anchor : Option String) (tag : Option String) (place : Place)
    (items : Reader (List Nat)) : Reader Nat := do
  let id ← begin anchor ⟨tagOr .list tag, .list [], place⟩
  fill id (.list (← items))
  return id

/-- Adds the mapping that begins here, and reads its entries. -/
def mappingOf (anchor : Option String) (tag : Option String) (place : Place)
    (entries : Reader (List (Nat × Nat))) : Reader Nat := do
  let id ← begin anchor ⟨tagOr .mapping tag, .mapping [], place⟩
  fill id (.mapping (← entries))
  return id

/-- The tag of a scalar: that of its name, else the one of its spelling if it is plain. -/
def scalarTag (text : String) (isPlain : Bool) (name : Option String) : Tag :=
  tagOr (if isPlain || name = some "!" then .ofSpelling text.toList else .text) name

mutual

/-- The node that stands here. In block style it may begin blocks, and if it may be flush, also be
a list whose items are not indented. The fuel bounds the steps. -/
def node (inBlock mayBeFlush : Bool) : Nat → Reader Nat
  | 0 => exhausted
  | fuel + 1 => do
    let first ← next
    let place := first.start
    if let .reference name := first.lexeme then
      take
      referredTo name place
    else
      let p ← properties
      let name ← tagName place p
      let t ← next
      match t.lexeme, inBlock, mayBeFlush with
      | .item, _, true => listOf p.anchor name place (flushItems fuel)
      | .scalar text isPlain, _, _ =>
        take
        begin p.anchor ⟨scalarTag text isPlain name, .scalar text, place⟩
      | .openBracket, _, _ =>
        listOf p.anchor name place do
          take
          flowItems t.start true fuel
      | .openBrace, _, _ =>
        mappingOf p.anchor name place do
          take
          flowEntries t.start true fuel
      | .listStart, true, _ =>
        listOf p.anchor name place do
          take
          blockItems t.start fuel
      | .mappingStart, true, _ =>
        mappingOf p.anchor name place do
          take
          blockEntries t.start fuel
      | found, _, _ =>
        if p.anchor.isSome || p.tag.isSome then
          begin p.anchor ⟨tagOr .null name, .scalar "", place⟩
        else refuse (.noContent inBlock place found.name) t.start

/-- The items of the list in block style that begins at a place. -/
def blockItems (start : Place) : Nat → Reader (List Nat)
  | 0 => exhausted
  | fuel + 1 => do
    let t ← next
    match t.lexeme with
    | .item =>
      take
      let x ←
        if ← isAt [.item, .blockEnd] then absent t.stop else node true false fuel
      return x :: (← blockItems start fuel)
    | .blockEnd =>
      take
      return []
    | found => refuse (.unendedBlock "collection" start found.name) t.start

/-- The items of a list in block style that is not indented. -/
def flushItems : Nat → Reader (List Nat)
  | 0 => exhausted
  | fuel + 1 => do
    let t ← next
    match t.lexeme with
    | .item =>
      take
      let x ←
        if ← isAt [.item, .key, .value, .blockEnd] then absent t.stop
        else node true false fuel
      return x :: (← flushItems fuel)
    | _ => return []

/-- The value behind a colon in block style, absent without one. -/
def blockValue : Nat → Reader Nat
  | 0 => exhausted
  | fuel + 1 => do
    let t ← next
    if ← accept .value then
      if ← isAt [.key, .value, .blockEnd] then absent t.stop else node true true fuel
    else absent t.start

/-- The entries of the mapping in block style that begins at a place. -/
def blockEntries (start : Place) : Nat → Reader (List (Nat × Nat))
  | 0 => exhausted
  | fuel + 1 => do
    let t ← next
    match t.lexeme with
    | .key =>
      take
      let k ←
        if ← isAt [.key, .value, .blockEnd] then absent t.stop
        else node true true fuel
      let v ← blockValue fuel
      return (k, v) :: (← blockEntries start fuel)
    | .blockEnd =>
      take
      return []
    | found => refuse (.unendedBlock "mapping" start found.name) t.start

/-- The value behind a colon in flow style, absent without one. -/
def flowValue (closing : Lexeme) : Nat → Reader Nat
  | 0 => exhausted
  | fuel + 1 => do
    let t ← next
    if ← accept .value then
      if ← isAt [.comma, closing] then absent t.stop else node false false fuel
    else absent t.start

/-- The items of the list in flow style that begins at a place. An item may be a single entry. -/
def flowItems (start : Place) (isFirst : Bool) : Nat → Reader (List Nat)
  | 0 => exhausted
  | fuel + 1 => do
    if ← accept .closeBracket then return []
    else
      unless isFirst do comma "sequence" ']' start
      let t ← next
      if ← accept .closeBracket then return []
      else if ← accept .key then
        let k ←
          if ← isAt [.value, .comma, .closeBracket] then absent t.stop
          else node false false fuel
        let v ← flowValue .closeBracket fuel
        let entry ← add ⟨.mapping, .mapping [(k, v)], t.start⟩
        return entry :: (← flowItems start false fuel)
      else
        let x ← node false false fuel
        return x :: (← flowItems start false fuel)

/-- The entries of the mapping in flow style that begins at a place. An entry without a colon has
no value. -/
def flowEntries (start : Place) (isFirst : Bool) : Nat → Reader (List (Nat × Nat))
  | 0 => exhausted
  | fuel + 1 => do
    if ← accept .closeBrace then return []
    else
      unless isFirst do comma "mapping" '\x7d' start
      let t ← next
      if ← accept .closeBrace then return []
      else if ← accept .key then
        let k ←
          if ← isAt [.value, .comma, .closeBrace] then absent t.stop
          else node false false fuel
        let v ← flowValue .closeBrace fuel
        return (k, v) :: (← flowEntries start false fuel)
      else
        let k ← node false false fuel
        let v ← absent (← next).start
        return (k, v) :: (← flowEntries start false fuel)

end

/-- Takes the directives before a document; `hasVersion` tells whether one has named the version.
The fuel bounds them. -/
def directives (hasVersion : Bool) : Nat → Reader Unit
  | 0 => exhausted
  | fuel + 1 => do
    let t ← next
    match t.lexeme with
    | .version major =>
      take
      if hasVersion then refuse .secondVersion t.start
      else if major ≠ 1 then refuse .foreignVersion t.start
      else directives true fuel
    | .handle handle meaning =>
      take
      if ((← get).handles.lookup handle).isSome then refuse (.secondHandle handle) t.start
      else
        modify fun s => { s with handles := s.handles ++ [(handle, meaning)] }
        directives hasVersion fuel
    | .otherDirective =>
      take
      directives hasVersion fuel
    | _ => return

/-- Takes the marks that end a document. The fuel bounds them. -/
def documentEnds : Nat → Reader Unit
  | 0 => exhausted
  | fuel + 1 => do if ← accept .documentEnd then documentEnds fuel

/-- Takes what begins a document, and gives the place where that stands, unless the end is
reached. -/
def documentStart? (fuel : Nat) : Reader (Option Place) := do
  documentEnds fuel
  let first ← next
  if first.lexeme = .streamEnd then return none
  else
    modify ({ · with handles := [] })
    directives false fuel
    modify fun s => { s with handles := s.handles ++ commonHandles }
    let t ← next
    if ← accept .documentStart then return some first.start
    else refuse (.noDocumentStart t.lexeme.name) t.start

/-- Whether a lexeme stands between documents. -/
def isBetween : Lexeme → Bool
  | .version _ | .handle _ _ | .otherDirective | .documentStart | .streamEnd => true
  | _ => false

/-- The node of a document that begins here; `isMarked` tells whether a mark has begun it, so that
it may hold nothing. -/
def document (isMarked : Bool) (fuel : Nat) : Reader Nat := do
  let t ← next
  if isMarked && (isBetween t.lexeme || t.lexeme = .documentEnd) then absent t.start
  else node true false fuel

/-- The node of the first document, if there is one. -/
def firstDocument (fuel : Nat) : Reader (Option Nat) := do
  if isBetween (← lexeme) then
    match ← documentStart? fuel with
    | none => return none
    | some _ => document true fuel
  else document false fuel

/-- The node of the only document, if there is one. -/
def onlyDocument (fuel : Nat) : Reader (Option Nat) := do
  match ← firstDocument fuel with
  | none => return none
  | some root =>
    match ← documentStart? fuel with
    | none => return some root
    | some place => refuse (.secondDocument ((← get).nodes.node root).place) place

end Reader

end SystemDynamics.Yaml
