import SystemDynamics.Text.Blank
import SystemDynamics.Text.DecimalDigit
import SystemDynamics.Number.Binary64
/-!
# Reading numbers

A decimal literal is a row of digits with at most one point and at least one digit beside it,
and perhaps an exponent. Where callers hand over a text in place of a number, white space around it,
a sign, single underscores between digits and the names of the special values are allowed too.
Digits may come from any script.
-/

namespace SystemDynamics.Reading

open Text

/-- The digits a text starts with, and the rest. -/
def spanDigits : List Char → List Char × List Char
  | [] => ([], [])
  | c :: cs => if isDigit c then ((c :: (spanDigits cs).1), (spanDigits cs).2) else ([], c :: cs)

/-- A decimal literal as it is spelt: the digits before the point, the point, the digits after
it, the mark of the exponent with its sign, and the digits of the exponent. -/
structure Literal where
  whole : List Char
  point : Bool
  fraction : List Char
  mark : List Char
  power : List Char
  deriving DecidableEq

namespace Literal

/-- The spelling. -/
def text (l : Literal) : List Char :=
  l.whole ++ ((if l.point then ['.'] else []) ++ (l.fraction ++ (l.mark ++ l.power)))

def exponent (l : Literal) : Int :=
  if l.mark.contains '-' then -(digitsValue l.power : Int) else digitsValue l.power

/-- The number nearest to the literal. -/
def value (l : Literal) : Float :=
  nearestDecimal (digitsValue (l.whole ++ l.fraction)) (l.exponent - l.fraction.length)

end Literal

/-- A sign in front of digits, as it is spelt. -/
def spanSign : List Char → List Char × List Char
  | '-' :: rest => (['-'], rest)
  | '+' :: rest => (['+'], rest)
  | rest => ([], rest)

/-- The exponent a text starts with, as its mark with the sign, its digits, and the rest;
without digits there is none. -/
def exponent? : List Char → Option (List Char × List Char × List Char)
  | [] => none
  | e :: rest =>
    if e = 'e' ∨ e = 'E' then
      match spanDigits (spanSign rest).2 with
      | ([], _) => none
      | (ds, after) => some (e :: (spanSign rest).1, ds, after)
    else none

/-- The literal without exponent that a text starts with, and the rest: digits, perhaps a
point, digits, and at least one digit in all. -/
def mantissa? (cs : List Char) : Option (Literal × List Char) :=
  match spanDigits cs with
  | ([], '.' :: rest) =>
    match spanDigits rest with
    | ([], _) => none
    | (ds, after) => some (⟨[], true, ds, [], []⟩, after)
  | ([], _) => none
  | (ds, '.' :: rest) => some (⟨ds, true, (spanDigits rest).1, [], []⟩, (spanDigits rest).2)
  | (ds, rest) => some (⟨ds, false, [], [], []⟩, rest)

/-- The longest literal that a text starts with, and the rest. -/
def literal? (cs : List Char) : Option (Literal × List Char) :=
  match mantissa? cs with
  | none => none
  | some (l, rest) =>
    match exponent? rest with
    | some (mark, power, after) => some ({ l with mark, power }, after)
    | none => some (l, rest)

/-- A sign in front of a text; true for minus. -/
def sign : List Char → Bool × List Char
  | '-' :: rest => (true, rest)
  | '+' :: rest => (false, rest)
  | rest => (false, rest)

/-- The text without underscores, none if one of them does not stand between two digits. -/
def withoutUnderscores? (previous : Bool) : List Char → Option (List Char)
  | [] => some []
  | '_' :: c :: cs =>
    if previous && isDigit c then (withoutUnderscores? true cs).map (c :: ·) else none
  | ['_'] => none
  | c :: cs => (withoutUnderscores? (isDigit c) cs).map (c :: ·)

/-- The value that a word names: infinity or not a number, in letters of either case. -/
def namedValue? (cs : List Char) : Option Float :=
  let word := String.ofList (cs.map Char.toLower)
  if word == "inf" || word == "infinity" then some (1.0 / 0.0)
  else if word == "nan" then some (0.0 / 0.0)
  else none

/-- The number that a text hands over, if it is one. -/
def real? (cs : List Char) : Option Float :=
  let (negative, body) := sign (trim cs)
  let magnitude : Option Float :=
    match namedValue? body with
    | some x => some x
    | none =>
      match (withoutUnderscores? false body).bind literal? with
      | some (l, []) => some l.value
      | _ => none
  magnitude.map fun x => if negative then -x else x

/-- What a text turns out to be that is to hand over a whole number. -/
inductive Whole where
  | number (n : Int)
  /-- More digits than are read. -/
  | tooLong (digits : Nat)
  | unreadable

/-- How many digits of a whole number are read. -/
def digitLimit : Nat := 4300

/-- Digits with their sign, unless they are too many. -/
def signedWhole (negative : Bool) (digits : List Char) : Whole :=
  if digitLimit < digits.length then .tooLong digits.length
  else .number (if negative then -(digitsValue digits : Int) else digitsValue digits)

/-- The whole number that a text hands over. That there are too many digits is found before what
follows them. -/
def whole (cs : List Char) : Whole :=
  let (negative, body) := sign (trim cs)
  let isPart := fun c : Char => isDigit c || c = '_'
  match withoutUnderscores? false (body.takeWhile isPart), body.dropWhile isPart with
  | some (d :: ds), rest =>
    match signedWhole negative (d :: ds) with
    | .number n => if rest.isEmpty then .number n else .unreadable
    | other => other
  | _, _ => .unreadable

/-- The value of a digit in a base: a decimal digit of any script or an ASCII letter. -/
def digitIn? (base : Nat) (c : Char) : Option Nat :=
  let value? :=
    match digitValue? c with
    | some d => some d
    | none =>
      if c.isLower then some (c.toNat - 'a'.toNat + 10)
      else if c.isUpper then some (c.toNat - 'A'.toNat + 10)
      else none
  value?.filter (· < base)

/-- The mark that digits in a base may begin with behind a zero, in small letters. -/
def baseMark? : Nat → Option Char
  | 2 => some 'b'
  | 8 => some 'o'
  | 16 => some 'x'
  | _ => none

/-- The digits of a base behind a zero and the mark of the base, behind which an underscore may
stand, if they begin with those. -/
def withoutMark (base : Nat) : List Char → List Char
  | '0' :: m :: rest =>
    if baseMark? base = some m.toLower then
      match rest with
      | '_' :: rest => rest
      | _ => rest
    else '0' :: m :: rest
  | cs => cs

/-- The digits of a base without single underscores between them, none if something else stands
there. -/
def digitsIn? (base : Nat) (previous : Bool) : List Char → Option (List Nat)
  | [] => some []
  | '_' :: c :: cs => if previous then digitsIn? base false (c :: cs) else none
  | c :: cs => do
    let d ← digitIn? base c
    return d :: (← digitsIn? base true cs)

/-- The whole number that a text writes in a base that is a power of two. -/
def wholeIn? (base : Nat) (cs : List Char) : Option Int :=
  let (negative, body) := sign (trim cs)
  match digitsIn? base false (withoutMark base body) with
  | none | some [] => none
  | some ds =>
    let n := ds.foldl (fun n d => n * base + d) 0
    some (if negative then -(n : Int) else n)

end SystemDynamics.Reading
