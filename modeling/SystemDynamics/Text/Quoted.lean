import SystemDynamics.Text.Half
import SystemDynamics.Text.Printable
/-!
# Quoted texts

How a message shows a text that it names: between single quotes, or between double quotes when
the text holds a single quote and no double one. The backslash, the chosen quote and the line,
return and tab characters are written with a backslash; every other unprintable character by
its code point in hexadecimal.
-/

namespace SystemDynamics.Text

/-- The hexadecimal digits of a code point, filled up with zeros to the width. -/
def hex (width n : Nat) : List Char :=
  let ds := Nat.toDigits 16 n
  List.replicate (width - ds.length) '0' ++ ds

/-- The quote that a text is written between. -/
def quoteFor (cs : List Char) : Char :=
  if cs.contains '\'' && !cs.contains '"' then '"' else '\''

/-- A character written by its code point. -/
def escapeOf (c : Char) : List Char :=
  let n := codeOf c
  if n < 0x100 then '\\' :: 'x' :: hex 2 n
  else if n < 0x10000 then '\\' :: 'u' :: hex 4 n
  else '\\' :: 'U' :: hex 8 n

/-- How one character is written between the given quotes. -/
def quotedChar (quote c : Char) : List Char :=
  if c == quote || c == '\\' then ['\\', c]
  else if c == '\n' then ['\\', 'n']
  else if c == '\r' then ['\\', 'r']
  else if c == '\t' then ['\\', 't']
  else if isPrintable c then [c]
  else escapeOf c

/-- A text as messages name it. -/
def quoted (s : String) : String :=
  let cs := s.toList
  let quote := quoteFor cs
  String.ofList (quote :: cs.flatMap (quotedChar quote) ++ [quote])

end SystemDynamics.Text
