import SystemDynamics.Literal.Flaw
/-!
# Numerals

How numbers are written: in decimal digits with a fraction and an exponent, or in hexadecimal,
octal or binary digits behind `0x`, `0o` and `0b`. Single underscores may stand between digits,
and a `j` behind a decimal number makes it imaginary. What comes behind a number must not look
like more of it.
-/

namespace SystemDynamics.Literal

/-- Whether a word goes on with the character. Which characters beyond ASCII a word may have is
looked at when the word is known. -/
def isWordPart (c : Char) : Bool := c.isAlphanum || c = '_' || 0x80 ≤ c.toNat

def isHexadecimalDigit (c : Char) : Bool :=
  c.isDigit || ('a' ≤ c && c ≤ 'f') || ('A' ≤ c && c ≤ 'F')

namespace Numeral

/-- Whether digits with single underscores between them end well, and what follows them: an
underscore has to have a digit behind it. -/
def digits (isDigit : Char → Bool) : List Char → Bool × List Char
  | [] => (true, [])
  | ['_'] => (false, [])
  | '_' :: c :: cs => if isDigit c then digits isDigit cs else (false, c :: cs)
  | c :: cs => if isDigit c then digits isDigit cs else (true, c :: cs)

/-- The words that may follow a number without a blank, and what other words may begin with. -/
def wordsBehind : List String := ["and", "else", "for", "or", "not"]

def beginningsBehind : List String := ["if", "in", "is"]

/-- What follows a number, provided that it does not look like more of it. -/
def ended (kind : String) (rest : List Char) : Except Flaw (List Char) :=
  if wordsBehind.contains (String.ofList (rest.takeWhile isWordPart)) then .ok rest
  else if beginningsBehind.any fun w => w.toList.isPrefixOf rest then .ok rest
  else if rest.head?.any fun c => isWordPart c && c.toNat < 0x80 then .error (.badNumber kind)
  else .ok rest

/-- What follows decimal digits. -/
def decimals (cs : List Char) : Except Flaw (List Char) :=
  let (well, rest) := digits Char.isDigit cs
  if well then .ok rest else .error (.badNumber "decimal")

/-- What follows digits in another base, the sign of the base being read. -/
def based (kind : String) (isDigit : Char → Bool) (cs : List Char) : Except Flaw (List Char) :=
  let (well, rest) := if cs.head?.any (· ≠ '_') && !cs.head?.any isDigit then (false, cs)
    else digits isDigit cs
  match rest with
  | c :: _ =>
    if c.isDigit then .error (.badDigit c kind)
    else if well then ended kind rest else .error (.badNumber kind)
  | [] => if well && cs ≠ [] then ended kind rest else .error (.badNumber kind)

/-- What follows a number whose digits and fraction are read: an exponent, the mark of imaginary
numbers. -/
def exponent (cs : List Char) : Except Flaw (List Char) :=
  let marked (rest : List Char) : Except Flaw (List Char) :=
    match rest with
    | c :: behind =>
      if c = 'j' || c = 'J' then ended "imaginary" behind else ended "decimal" rest
    | [] => .ok []
  match cs with
  | e :: behind =>
    if e = 'e' || e = 'E' then
      match behind with
      | sign :: digits =>
        if sign = '+' || sign = '-' then
          if digits.head?.any Char.isDigit then decimals digits >>= marked
          else .error (.badNumber "decimal")
        else if sign.isDigit then decimals behind >>= marked
        else ended "decimal" cs
      | [] => ended "decimal" cs
    else marked cs
  | [] => .ok []

/-- What follows a fraction, the point being read, and the rest of the number. -/
def fraction (cs : List Char) : Except Flaw (List Char) :=
  if cs.head?.any Char.isDigit then decimals cs >>= exponent else exponent cs

/-- What follows a decimal number. Zeros in front are refused in whole numbers only. -/
def decimal (cs : List Char) : Except Flaw (List Char) := do
  let rest ← decimals cs
  let written := cs.take (cs.length - rest.length)
  match rest with
  | c :: behind =>
    if c = '.' then fraction behind
    else if ['e', 'E', 'j', 'J'].contains c then exponent rest
    else if startsWithZero written then .error .leadingZeros
    else ended "decimal" rest
  | [] => if startsWithZero written then .error .leadingZeros else .ok []
where
  /-- Whether a number other than zero starts with a zero. -/
  startsWithZero (written : List Char) : Bool :=
    written.head? = some '0' && written.any fun c => c ≠ '0' && c ≠ '_'

/-- What follows the number that a text starts with, which starts with a digit or with a point
and a digit. -/
def rest (cs : List Char) : Except Flaw (List Char) :=
  match cs with
  | '.' :: behind => fraction behind
  | '0' :: mark :: behind =>
    if mark = 'x' || mark = 'X' then hexadecimal behind
    else if mark = 'o' || mark = 'O' then
      based "octal" (fun c => '0' ≤ c && c < '8') behind
    else if mark = 'b' || mark = 'B' then based "binary" (fun c => c = '0' || c = '1') behind
    else decimal cs
  | _ => decimal cs
where
  hexadecimal (cs : List Char) : Except Flaw (List Char) :=
    based "hexadecimal" isHexadecimalDigit cs

end Numeral

/-- What a number is: whole, real or imaginary. -/
inductive Number where
  | whole (n : Nat)
  | real
  | imaginary
  deriving DecidableEq, Repr

/-- The most decimal digits of a whole number. -/
def Number.mostDigits : Nat := 4300

/-- The value of a digit of any base up to sixteen. -/
def digitValue (c : Char) : Nat :=
  if c.isDigit then c.toNat - '0'.toNat else c.toLower.toNat - 'a'.toNat + 10

def ofDigits (base : Nat) (digits : List Char) : Nat :=
  digits.foldl (fun n c => n * base + digitValue c) 0

/-- The number that a numeral writes. -/
def Number.of? (written : List Char) : Except Flaw Number :=
  let written := written.filter (· ≠ '_')
  match written with
  | '0' :: mark :: digits =>
    if mark = 'x' || mark = 'X' then .ok (.whole (ofDigits 16 digits))
    else if mark = 'o' || mark = 'O' then .ok (.whole (ofDigits 8 digits))
    else if mark = 'b' || mark = 'B' then .ok (.whole (ofDigits 2 digits))
    else decimal written
  | _ => decimal written
where
  decimal (written : List Char) : Except Flaw Number :=
    if written.getLast?.any fun c => c = 'j' || c = 'J' then .ok .imaginary
    else if !written.all Char.isDigit then .ok .real
    else if written.head? = some '0' then
      .ok (if written.all (· = '0') then .whole 0 else .real)
    else if mostDigits < written.length then .error (.tooManyDigits written.length)
    else .ok (.whole (ofDigits 10 written))

end SystemDynamics.Literal
