import SystemDynamics.Text.Range
/-!
# Blanks and lines

The blanks are the Unicode white space together with the four information separators, the
line ends are those of Unicode together with three of the separators. A text is stripped of
blanks at both ends and split at its line ends, a carriage return before a line feed counting
as one line end.
-/

namespace SystemDynamics.Text

/-- Unicode white space and the information separators U+001C to U+001F. -/
def blankRanges : List (Nat × Nat) :=
  [(0x09, 0x0D), (0x1C, 0x20), (0x85, 0x85), (0xA0, 0xA0), (0x1680, 0x1680), (0x2000, 0x200A),
   (0x2028, 0x2029), (0x202F, 0x202F), (0x205F, 0x205F), (0x3000, 0x3000)]

def isBlank (c : Char) : Bool := inRanges blankRanges c.toNat

/-- The characters that end a line. -/
def lineEndRanges : List (Nat × Nat) :=
  [(0x0A, 0x0D), (0x1C, 0x1E), (0x85, 0x85), (0x2028, 0x2029)]

def isLineEnd (c : Char) : Bool := inRanges lineEndRanges c.toNat

/-- Whether a character is white space of Unicode: a blank other than the separators. -/
def isWhiteSpace (c : Char) : Bool := isBlank c && !(0x1C ≤ c.toNat && c.toNat ≤ 0x1F)

/-- The text without the white space at either end; a separator is left alone. -/
def trim (cs : List Char) : List Char :=
  ((cs.dropWhile isWhiteSpace).reverse.dropWhile isWhiteSpace).reverse

/-- The text without the blanks it starts with. -/
def stripLeft (cs : List Char) : List Char := cs.dropWhile isBlank

/-- The text without the blanks it ends with. -/
def stripRight (cs : List Char) : List Char := (cs.reverse.dropWhile isBlank).reverse

/-- The text without the blanks at either end. -/
def strip (cs : List Char) : List Char := stripRight (stripLeft cs)

/-- Splits at line ends; `line` holds the current line backwards. A line end that closes the
text opens no further line. -/
def linesFrom (line : List Char) : List Char → List (List Char)
  | [] => if line.isEmpty then [] else [line.reverse]
  | '\r' :: '\n' :: rest => line.reverse :: linesFrom [] rest
  | c :: rest =>
    if isLineEnd c then line.reverse :: linesFrom [] rest else linesFrom (c :: line) rest

/-- The lines of a text. -/
def lines (cs : List Char) : List (List Char) := linesFrom [] cs

end SystemDynamics.Text
