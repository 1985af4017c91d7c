import SystemDynamics.Literal.Expression
import SystemDynamics.Text.CharacterName
/-!
# Quoted texts

A quoted text has letters in front that say how it is written: raw, as octets, or as a template
with expressions in braces. In texts that are not raw a backslash begins an escape. Escapes are
counted as if every character beyond ASCII were an escape itself.
-/

namespace SystemDynamics.Literal

/-- A quoted text: its marks, and what stands between the quotes. -/
structure Quoted where
  octets : Bool
  raw : Bool
  template : Bool
  content : List Char
  deriving Repr

namespace Quoted

/-- The quoted text that is written. -/
def ofWritten (written : List Char) : Quoted :=
  let isQuote (c : Char) : Bool := c = '\'' || c = '"'
  let marks := (written.takeWhile fun c => !isQuote c).map Char.toLower
  let quoted := written.dropWhile fun c => !isQuote c
  let quotes := match quoted with
    | a :: b :: c :: _ => if a = b && b = c then 3 else 1
    | _ => 1
  { octets := marks.contains 'b'
    raw := marks.contains 'r'
    template := marks.contains 'f'
    content := (quoted.drop quotes).take (quoted.length - 2 * quotes) }

def isForeign (c : Char) : Bool := 0x80 ≤ c.toNat

/-- The escape of a character by its code point, in eight digits. -/
def escaped (c : Char) : List Char :=
  let digits := Nat.toDigits 16 c.toNat
  '\\' :: 'U' :: (List.replicate (8 - digits.length) '0' ++ digits)

/-- The text with its foreign characters escaped. A backslash that escapes nothing is escaped
too. -/
def expanded : List Char → List Char
  | [] => []
  | ['\\'] => "\\u005c".toList
  | '\\' :: c :: cs =>
    if isForeign c then "\\u005c".toList ++ escaped c ++ expanded cs
    else '\\' :: c :: expanded cs
  | c :: cs => if isForeign c then escaped c ++ expanded cs else c :: expanded cs

/-- How many digits the escapes by number have. -/
def escapeDigits? (c : Char) : Option Nat :=
  if c = 'x' then some 2 else if c = 'u' then some 4 else if c = 'U' then some 8 else none

/-- What is wrong with the escape by number at a place, if anything. -/
def numberFlaw? (place count : Nat) (mark : Char) (cs : List Char) : Option Flaw :=
  let digits := (cs.take count).takeWhile isHexadecimalDigit
  let next := place + 2 + digits.length
  if digits.length < count then
    let shape := String.ofList (mark :: List.replicate count 'X')
    some (.badEscape place next (.short shape))
  else if 0x10FFFF < ofDigits 16 digits then some (.badEscape place next .noCharacter)
  else none

/-- What is wrong with the escape by name at a place, if anything. -/
def nameFlaw? (place : Nat) : List Char → Option Flaw
  | '\x7b' :: cs =>
    let name := cs.takeWhile (· ≠ '\x7d')
    let next := place + 3 + name.length
    if name.length = cs.length || name = [] then some (.badEscape place next .badName)
    else if Text.isCharacterName name then none
    else some (.badEscape place (next + 1) .unknownName)
  | _ => some (.badEscape place (place + 2) .badName)

/-- The first flaw in the escapes of a text, the place of its first character being known. -/
def escapeFlaw? (place : Nat) : List Char → Option Flaw
  | '\\' :: c :: cs =>
    let flaw := if c = 'N' then nameFlaw? place cs
      else (escapeDigits? c).bind fun count => numberFlaw? place count c cs
    match flaw with
    | some f => some f
    | none => escapeFlaw? (place + 2) cs
  | _ :: cs => escapeFlaw? (place + 1) cs
  | [] => none

/-- The first flaw in the escapes of octets, of which only those by number have any. -/
def octetFlaw? (place : Nat) : List Char → Option Flaw
  | '\\' :: c :: cs =>
    if c = 'x' && ((cs.take 2).takeWhile isHexadecimalDigit).length < 2 then some (.badOctet place)
    else octetFlaw? (place + 2) cs
  | _ :: cs => octetFlaw? (place + 1) cs
  | [] => none

/-- The first flaw in a part of a text that is no expression. -/
def partFlaw? (raw : Bool) (part : List Char) : Option Flaw :=
  if raw || !part.contains '\\' then none else escapeFlaw? 0 (expanded part)

/-- The first flaw in a text that is no template. -/
def flaw? (q : Quoted) : Option Flaw :=
  if q.octets then
    if q.content.any isForeign then some .notPlain
    else if q.raw then none
    else octetFlaw? 0 q.content
  else partFlaw? q.raw q.content

end Quoted
end SystemDynamics.Literal
