import SystemDynamics.Report.Emoji
import SystemDynamics.Report.Handler
import SystemDynamics.Report.Style
import SystemDynamics.Text.CellWidth
/-!
# Markup

Printed texts may hold tags in square brackets, which set a style and do not show. A tag begins
with a lower-case letter, a number sign, a slash or an at sign; a slash closes the tag of its
style, or the last one. A backslash before a tag keeps it as text. What lies between a tag and the
one that closes it is a span of that style; a style is only looked up when its span is printed.
-/

namespace SystemDynamics.Markup

/-- A piece of a marked-up text with its place in it. -/
inductive Piece where
  | plain (cs : List Char)
  | tag (place : Nat) (body : List Char)

def beginsTag (c : Char) : Bool :=
  ('a' ≤ c && c ≤ 'z') || c == '#' || c == '/' || c == '@'

/-- The body of the tag that a text starts with, if it starts with one. -/
def tag? : List Char → Option (List Char)
  | '[' :: c :: cs =>
    if beginsTag c then
      let body := cs.takeWhile fun d => d ≠ '[' ∧ d ≠ ']'
      match cs.dropWhile fun d => d ≠ '[' ∧ d ≠ ']' with
      | ']' :: _ => some (c :: body)
      | _ => none
    else none
  | _ => none

/-- The text without the backslashes that stand before opening brackets. -/
def unescape : List Char → List Char
  | '\\' :: '[' :: cs => '[' :: unescape cs
  | c :: cs => c :: unescape cs
  | [] => []

/-- The pieces of a text from a place on. `plain` holds the current plain piece backwards, and
the first `skip` characters have been taken care of. -/
def pieces (plain : List Char) (skip place : Nat) : List Char → List Piece
  | [] => [.plain plain.reverse]
  | c :: cs =>
    match skip with
    | skip + 1 => pieces plain skip (place + 1) cs
    | 0 =>
      let slashes := ((c :: cs).takeWhile (· = '\\')).length
      match tag? ((c :: cs).drop slashes) with
      | none => pieces (c :: plain) 0 (place + 1) cs
      | some body =>
        let kept := List.replicate (slashes / 2) '\\'
        let inner : Piece :=
          if slashes % 2 = 1 then .plain ('[' :: body ++ [']']) else .tag (place + slashes) body
        .plain plain.reverse :: .plain kept :: inner ::
          pieces [] (slashes + body.length + 1) (place + 1) cs

/-- What can be wrong with tags: one that is closed was never opened, the parameters of one that
calls a handler cannot be read, or a number in a color cannot. -/
inductive Error where
  | unmatched (tag : String) (place : Nat)
  | nothingOpen (place : Nat)
  | badParameters (part whole : String) (failure : Handler.Failure)
  | badNumber (f : Fault)
  deriving DecidableEq

namespace Error

/-- The kind of the error, as reports name it. -/
def kind : Error → String
  | badNumber f => f.kind
  | _ => "MarkupError"

def message : Error → String
  | unmatched tag place =>
    "closing tag '[" ++ tag ++ "]' at position " ++ toString place ++
      " doesn't match any open tag"
  | nothingOpen place =>
    "closing tag '[/]' at position " ++ toString place ++ " has nothing to close"
  | badParameters part whole (.flaw f) =>
    "error parsing " ++ Text.quoted part ++ " in " ++ Text.quoted whole ++ "; " ++ f.message
  | badParameters _ whole failure =>
    "error parsing " ++ Text.quoted whole ++ "; " ++ failure.message
  | badNumber f => f.message

end Error

/-- A tag that is open: where it begins, the normal form of its style, and its parameters. -/
structure Open where
  start : Nat
  style : String
  parameters : List Char

/-- The part of a tag before an equals sign, and the part behind it. -/
def nameOf (body : List Char) : List Char := body.takeWhile (· ≠ '=')

def parametersOf (body : List Char) : List Char := (body.dropWhile (· ≠ '=')).drop 1

/-- The normal form of a style. -/
def styleOf (name : List Char) : Except Error String := (Style.normal name).mapError .badNumber

def Open.callsHandler (o : Open) : Bool := o.style.toList.head? = some '@'

/-- What closing a tag brings up: the parameters of a handler have to be literals. -/
def Open.close (o : Open) : Except Error Unit :=
  if o.callsHandler ∧ o.parameters ≠ [] then
    match Handler.problem? o.parameters with
    | none => .ok ()
    | some (part, failure) =>
      .error (.badParameters (String.ofList part) (String.ofList o.parameters) failure)
  else .ok ()

/-- The tag that a closing tag of a place closes, and the tags that stay open. -/
def closed (opened : List Open) (place : Nat) (body : List Char) :
    Except Error (Open × List Open) := do
  let name := Text.strip (nameOf (body.drop 1))
  if name.isEmpty then
    match opened with
    | [] => .error (.nothingOpen place)
    | o :: outer => .ok (o, outer)
  else
    let style ← styleOf name
    match opened.find? (·.style = style) with
    | some o => .ok (o, opened.eraseP (·.style = style))
    | none => .error (.unmatched (String.ofList body) place)

/-- A stretch of a text, and the words of its style. -/
structure Span where
  start : Nat
  stop : Nat
  style : List Char

/-- The span of a tag that is closed at a place. -/
def Open.span (o : Open) (stop : Nat) : Span :=
  ⟨o.start, stop, o.style.toList ++ ' ' :: o.parameters⟩

/-- The control characters that never show: bell, backspace, vertical tab, form feed, carriage
return. -/
def isHidden (c : Char) : Bool :=
  c = '\x07' || c = '\x08' || c = '\x0b' || c = '\x0c' || c = '\r'

/-- A text as it shows, without its tags, and the spans that they set. -/
structure Shown where
  text : List Char
  spans : List Span

/-- What shows of pieces from a place on, the open tags given, the innermost first. -/
def showPieces (place : Nat) (opened : List Open) : List Piece → Except Error Shown
  | [] => .ok ⟨[], opened.map (·.span place)⟩
  | .plain cs :: rest => do
    let text := (Emoji.replaced 0 (unescape cs)).filter (!isHidden ·)
    let more ← showPieces (place + text.length) opened rest
    return { more with text := text ++ more.text }
  | .tag tagPlace body :: rest =>
    if body.head? = some '/' then do
      let (o, opened) ← closed opened tagPlace body
      o.close
      let more ← showPieces place opened rest
      return if o.callsHandler then more else { more with spans := o.span place :: more.spans }
    else do
      let o : Open := ⟨place, ← styleOf (nameOf body), parametersOf body⟩
      showPieces place (o :: opened) rest

/-- A marked-up text as it shows. -/
def shown (s : String) : Except Error Shown := showPieces 0 [] (pieces [] 0 0 s.toList)

/-- What is wrong with the style of a span. -/
def Span.fault? (s : Span) : Option Fault :=
  match Style.ofText s.style with
  | .error (.fault f) => some f
  | .ok _ | .error .noStyle => none

/-- What is wrong with the styles of a text where it is printed; where it is cut into pieces, the
spans that hold nothing are lost. -/
def Shown.fault? (t : Shown) (isCut : Bool) : Option Fault :=
  let spans := t.spans.filter fun s => !isCut || s.start < s.stop
  (spans.reverse.mergeSort fun a b => a.start ≤ b.start).findSome? Span.fault?

/-- The distance between tab stops. -/
def tabStop : Nat := 8

/-- The text with blanks for tabs, from a column of its line on. -/
def withoutTabs (column : Nat) : List Char → List Char
  | [] => []
  | c :: cs =>
    if c = '\t' then
      let width := tabStop - column % tabStop
      List.replicate width ' ' ++ withoutTabs (column + width) cs
    else c :: withoutTabs (if c = '\n' then 0 else column + Text.cellsOf c) cs

/-- The lines of a text that is printed. -/
def printed (s : String) : Except Error String := do
  let t ← shown s
  match t.fault? (t.text.any fun c => c = '\t' || c = '\n') with
  | some f => .error (.badNumber f)
  | none => return String.ofList (withoutTabs 0 t.text)

end SystemDynamics.Markup
