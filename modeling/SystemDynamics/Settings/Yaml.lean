import SystemDynamics.Settings.Yaml.Reader
import SystemDynamics.Settings.Yaml.Value
/-!
# Settings files

A settings file is a YAML document, and its value is a datum. The characters of a file are looked
at in portions, the first of which is longer than the others. Where a portion holds a character
that no document may hold, nothing of the portion is read, so that flaws before it come first.
-/

namespace SystemDynamics.Yaml

/-- Line ends of two characters as one. -/
def unifiedLineEnds : List Char → List Char
  | '\r' :: '\n' :: cs => '\n' :: unifiedLineEnds cs
  | '\r' :: cs => '\n' :: unifiedLineEnds cs
  | c :: cs => c :: unifiedLineEnds cs
  | [] => []

/-- Whether a document may hold the character. -/
def isAllowed (c : Char) : Bool :=
  c = '\t' || c = '\n' || c = '\r' || c = '\x85' || (' ' ≤ c && c ≤ '~') ||
    (0xA0 ≤ c.toNat && c.toNat ≤ 0xFFFD) || 0x10000 ≤ c.toNat

/-- The first character that no document may hold, and how many stand before it. -/
def firstForbidden? (cs : List Char) : Option (Char × Nat) :=
  cs.zipIdx.find? (!isAllowed ·.1)

/-- How long a portion is. -/
def portion : Nat := 4096

/-- Where the portion begins that holds the character of an index. The first is two in one. -/
def portionStart (index : Nat) : Nat := if index < 2 * portion then 0 else index / portion * portion

/-- The cursor behind a mark of the byte order. -/
def behindOrderMark (p : Cursor) : Cursor := if p.head? = some '\ufeff' then p.advance 1 else p

/-- The nodes of a document, and the number of the one that it holds. -/
def nodes (cs : List Char) : Except Halt (Option Nat × Graph) := do
  let start := behindOrderMark ⟨cs, ⟨0, 0, 0⟩⟩
  let (root, s) ← (Reader.onlyDocument (8 * cs.length + 16)).run
    { stream := { cursor := start, size := cs.length }, handles := commonHandles, anchors := []
      nodes := #[] }
  return (root, s.nodes)

/-- Why a document has no value that holds a character which no document may hold, so many
characters standing before it. -/
def forbidden (cs : List Char) (c : Char) (index : Nat) : Problem :=
  let start := portionStart index
  match nodes (cs.take start) with
  | .error halt => if halt.reached < start then halt.problem else .forbidden c index
  | .ok _ => .forbidden c index

/-- The datum that a document holds. -/
def read (text : String) : Except Problem Datum :=
  let cs := unifiedLineEnds text.toList
  match firstForbidden? cs with
  | some (c, index) => .error (forbidden cs c index)
  | none =>
    match nodes cs with
    | .error halt => .error halt.problem
    | .ok (none, _) => .ok .null
    | .ok (some root, g) => g.datum root

end SystemDynamics.Yaml
