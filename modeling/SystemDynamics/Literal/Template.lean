import SystemDynamics.Literal.Quoted
import SystemDynamics.Literal.Lexer
/-!
# Templates

A template is a text with expressions in braces. Braces that are meant as such are written twice.
Behind an expression may stand an equals sign, a conversion, and behind a colon the format, which
is a template itself. A format holds expressions too, and these may have formats of their own
which hold none.
-/

namespace SystemDynamics.Literal

/-- Why a text is no expression: a flaw, or it is nested too deeply to be read. -/
inductive Failure where
  | flaw (f : Flaw)
  | tooDeep
  deriving DecidableEq, Repr

namespace Template

/-- Where the reader of a plain part is: in the text, behind a backslash, at a name's first brace,
or in a name. -/
inductive Place where
  | text | escape | brace | name
  deriving DecidableEq

/-- The plain part that a template starts with, what is left, and whether the part ends with a
brace that is written twice. In formats braces are not written twice. -/
def plain (raw outer : Bool) (place : Place) (read : List Char) :
    List Char → Except TemplateFlaw (List Char × List Char × Bool)
  | [] => .ok (read.reverse, [], false)
  | c :: cs =>
    let go (place : Place) := plain raw outer place (c :: read) cs
    if place = .brace then go (if c = '\x7b' then .name else .text)
    else if place = .name then go (if c = '\x7d' then .text else .name)
    else if place = .text && c = '\\' && !raw then go .escape
    else if place = .escape && c = 'N' then go .brace
    else if c = '\x7b' || c = '\x7d' then
      if outer && cs.head? = some c then .ok ((c :: read).reverse, cs.drop 1, true)
      else if outer && c = '\x7d' then .error .loneBrace
      else .ok (read.reverse, c :: cs, false)
    else go .text

/-- The text in quotes that the reader of an expression is in: the quote, and whether it is
written three times. -/
structure Inner where
  quote : Char
  long : Bool

/-- The expression that a text starts with, and what is left from the sign that ends it. Between
brackets and quotes no sign ends it; `copied` characters belong to it whatever they are. -/
def expression (copied : Nat) (inner : Option Inner) (opened read : List Char) :
    List Char → Except TemplateFlaw (List Char × List Char)
  | [] =>
    match inner, opened with
    | some _, _ => .error .openText
    | none, o :: _ => .error (.unmatched o)
    | none, [] => .ok (read.reverse, [])
  | c :: cs =>
    let go (copied : Nat) (inner : Option Inner) (opened : List Char) :=
      expression copied inner opened (c :: read) cs
    let thrice := [c, c].isPrefixOf cs
    match copied with
    | n + 1 => go n inner opened
    | 0 =>
      if c = '\\' then .error .backslash
      else match inner with
      | some text =>
        if c ≠ text.quote then go 0 inner opened
        else if !text.long then go 0 none opened
        else if thrice then go 2 none opened
        else go 0 inner opened
      | none =>
        if c = '\'' || c = '"' then go (if thrice then 2 else 0) (some ⟨c, thrice⟩) opened
        else if ['(', '[', '\x7b'].contains c then
          if Lexer.mostBrackets ≤ opened.length then .error .tooManyBrackets
          else go 0 none (c :: opened)
        else if c = '#' then .error .comment
        else if opened = [] && ['!', '=', '<', '>'].contains c && cs.head? = some '=' then
          go 1 none opened
        else if opened = [] && ['!', ':', '\x7d', '='].contains c then .ok (read.reverse, c :: cs)
        else if [')', ']', '\x7d'].contains c then
          match opened with
          | [] => .error (.unmatched c)
          | o :: outer =>
            if Lexer.closingOf o = c then go 0 none outer else .error (.mismatched c o)
        else go 0 none opened

/-- What is read of a template, and how its flaws are reported. -/
structure Reader where
  raw : Bool
  report : TemplateFlaw → Failure
  /-- Why a plain part is refused, if it is. -/
  part? : List Char → Option Failure
  /-- Why an expression is refused, if it is. -/
  expression? : List Char → Option Failure

/-- Refuses what is refused. -/
def refuse? : Option Failure → Except Failure Unit
  | some f => .error f
  | none => .ok ()

/-- What is left behind the conversion that a text may start with. -/
def conversion (r : Reader) : List Char → Except Failure (List Char)
  | ['!'] => .error (r.report .unended)
  | '!' :: c :: cs =>
    if ['s', 'r', 'a'].contains c then .ok cs else .error (r.report .badConversion)
  | cs => .ok cs

/-- Whether an expression may be read, which the sign ends. -/
def checked (r : Reader) (written : List Char) (sign : Char) : Except Failure Unit :=
  if written.all fun c => [' ', '\t', '\n', '\x0c'].contains c then
    .error (r.report (if sign = '\x7d' then .empty else .emptyBefore sign))
  else refuse? (r.expression? written)

/-- What is left behind the equals sign that a text may start with, and the blanks behind it. -/
def equalsSign : List Char → List Char
  | '=' :: cs => cs.dropWhile fun c => c = ' ' || ('\t' ≤ c && c ≤ '\r')
  | cs => cs

/-- Reads a template, or a format in as many other formats as are missing in `formats`, and gives
what is left, which begins with the brace that ends a format. At most `fuel` parts are read. -/
def read (r : Reader) (formats : Nat) : (fuel : Nat) → List Char → Except Failure (List Char)
  | 0, cs => return cs
  | fuel + 1, cs => do
    let (part, rest, doubled) ← (plain r.raw (formats = 2) .text [] cs).mapError r.report
    refuse? (r.part? part)
    if doubled then read r formats fuel rest
    else match rest with
    | '\x7b' :: inside =>
      match formats with
      | 0 => throw (r.report .tooDeep)
      | outer + 1 =>
        let (written, rest) ← (expression 0 none [] [] inside).mapError r.report
        let sign :: _ := rest | throw (r.report .unended)
        checked r written sign
        let rest ← conversion r (equalsSign rest)
        let rest ← match rest with
          | [':'] => throw (r.report .unended)
          | ':' :: format => read r outer fuel format
          | _ => pure rest
        match rest with
        | '\x7d' :: rest => read r formats fuel rest
        | _ => throw (r.report .unended)
    | _ => return rest

end Template

namespace Quoted

/-- Refuses a text that is written wrong. Expressions in it are refused by `embedded?`, other flaws
are reported by `report`. -/
def check (report : Flaw → Failure) (embedded? : List Char → Option Failure) (q : Quoted) :
    Except Failure Unit :=
  if q.template then do
    let reader : Template.Reader :=
      { raw := q.raw
        report := fun flaw => report (.template flaw)
        part? := fun part => (partFlaw? q.raw part).map report
        expression? := embedded? }
    discard (Template.read reader 2 (q.content.length + 1) q.content)
  else Template.refuse? (q.flaw?.map report)

/-- The text that quoted texts in a row are together. Octets and characters are not mixed. -/
def join (report : Flaw → Failure) (embedded? : List Char → Option Failure)
    (texts : List (List Char)) : Except Failure Expression := do
  let texts := texts.map ofWritten
  for (q, i) in texts.zipIdx do
    if !q.template then q.check report embedded?
    if i ≠ 0 && texts.head?.any fun first => first.octets ≠ q.octets then
      throw (report .mixedTexts)
    if q.template then q.check report embedded?
  return if texts.any (·.template) then .compound .formatted []
    else .constant (if texts.any (·.octets) then .octets else .text)

end Quoted
end SystemDynamics.Literal
