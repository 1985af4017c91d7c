import SystemDynamics.Report.Markup
/-!
# Layout of tables

A table is printed with two blanks between its columns, each as wide as its widest cell, where a
tab counts nothing. Tabs are blanks when a cell is printed, so that a cell with tabs may need more
lines, and a row as many as the longest of its cells. The title is broken into lines that are no
wider than the table would be with a rule before, between and behind its columns and a blank on
both sides of each cell.
-/

namespace SystemDynamics.Layout

/-- The words of a text, each with the blanks around it that no other word has. -/
def words (cs : List Char) : List (List Char) :=
  (cs.splitBy fun c d => !(Text.isBlank c && !Text.isBlank d)).foldr
    (fun word rest => if word.all Text.isBlank then (word ++ rest.headD []) :: rest.tail
      else word :: rest) []

/-- A word cut into pieces of a width, `line` being the current one backwards and `filled` the
width that it takes. -/
def piecesFrom (width filled : Nat) (line : List Char) : List Char → List (List Char)
  | [] => [line.reverse]
  | c :: cs =>
    let cells := Text.cellsOf c
    if width < filled + cells then line.reverse :: piecesFrom width cells [c] cs
    else piecesFrom width (filled + cells) (c :: line) cs

/-- The lines that words have been put into, the last one first, and how much of it is taken. -/
structure Filling where
  lines : List (List Char) := []
  taken : Nat := 0

namespace Filling

/-- Puts a piece of a word into the last line. -/
def append (f : Filling) (piece : List Char) : List (List Char) :=
  match f.lines with
  | [] => [piece]
  | line :: before => (line ++ piece) :: before

/-- Puts a word behind those before it, into a new line where it does not fit. One that fits into
no line is cut if it folds. -/
def add (folds : Bool) (width : Nat) (f : Filling) (word : List Char) : Filling :=
  let letters := Text.cellWidth (Text.stripRight word)
  let cells := Text.cellWidth word
  if f.taken + letters ≤ width then ⟨f.append word, f.taken + cells⟩
  else if width < letters ∧ folds then
    let pieces := piecesFrom width 0 [] word
    ⟨pieces.reverse ++ f.lines, Text.cellWidth (pieces.getLastD [])⟩
  else if width < letters ∨ f.taken ≠ 0 then ⟨word :: f.lines, cells⟩
  else ⟨f.append word, f.taken⟩

end Filling

/-- A text broken into lines of a width between its words. -/
def broken (folds : Bool) (width : Nat) (cs : List Char) : List (List Char) :=
  match ((words cs).foldl (Filling.add folds width) {}).lines with
  | [] => [cs]
  | lines => lines.reverse

/-- The text without the blanks at its end that go beyond a length. -/
def withoutOverhang (length : Nat) (cs : List Char) : List Char :=
  cs.take (max length (Text.stripRight cs).length)

/-- The beginning of a text that takes so many cells, found by halving; a half of a wide character
is a blank. The fuel bounds the steps. -/
def beginning (width : Nat) (cs : List Char) : Nat → Nat → Nat → List Char
  | 0, start, _ => cs.take start
  | fuel + 1, start, stop =>
    let middle := (start + stop) / 2
    let before := cs.take (middle + 1)
    let cells := Text.cellWidth before
    if cells = width + 1 ∧ before.getLast?.any fun c => Text.cellsOf c = 2 then
      before.dropLast ++ [' ']
    else if cells = width then before
    else if width < cells then beginning width cs fuel start middle
    else beginning width cs fuel middle stop

/-- The beginning of a text that takes so many cells. -/
def cropped (width : Nat) (cs : List Char) : List Char :=
  if width = 0 then [] else beginning width cs (cs.length + 1) 0 cs.length

/-- A line that is no wider than asked for, with dots for what is left out. -/
def shortened (width : Nat) (line : List Char) : List Char :=
  let line := withoutOverhang width line
  if Text.cellWidth line ≤ width then line else cropped (width - 1) line ++ ['…']

/-- The lines of a cell of a width. -/
def cellLines (width : Nat) (cell : String) : List String :=
  (cell.toList.splitOn '\n').flatMap fun line =>
    (broken false width (Markup.withoutTabs 0 line)).map fun l => String.ofList (shortened width l)

/-- The width of a cell, a tab counting nothing. -/
def breadth (cell : String) : Nat := ((Text.lines cell.toList).map Text.cellWidth).foldl max 0

/-- The widths of the columns of rows. -/
def columnWidths : List (List String) → List Nat
  | [] => []
  | row :: rest =>
    let widths := columnWidths rest
    (List.range (max widths.length row.length)).map fun i =>
      max (widths.getD i 0) (breadth (row.getD i ""))

/-- The cells of a row by the lines that they are printed in. -/
def rowLines (widths : List Nat) (row : List String) : List (List String) :=
  let cells := (row.zip widths).map fun (cell, width) => cellLines width cell
  (List.range ((cells.map (·.length)).foldl max 0)).map fun i => cells.map (·.getD i "")

/-- The cells of rows by the lines that they are printed in. -/
def cells (rows : List (List String)) : List (List String) :=
  rows.flatMap (rowLines (columnWidths rows))

/-- A cell filled up to a width. -/
def padded (width : Nat) (cell : String) : List Char :=
  cell.toList ++ List.replicate (width - Text.cellWidth cell.toList) ' '

/-- The cells of a line side by side. -/
def line (widths : List Nat) (row : List String) : String :=
  let cells := (row.zip widths).map fun (cell, width) => padded width cell
  String.ofList (Text.stripRight ([' ', ' '].intercalate cells))

/-- The lines of a table. -/
def lines (rows : List (List String)) : List String :=
  (cells rows).map (line (columnWidths rows))

/-- The width of a table with its rules. -/
def ruledWidth (rows : List (List String)) : Nat :=
  (columnWidths rows).foldr (fun width total => width + 3 + total) 1

/-- A line of a title, which is cut where it is wider than the table. -/
def titleLine (width : Nat) (line : List Char) : String :=
  let line := Text.stripRight line
  String.ofList (if Text.cellWidth line ≤ width then line else cropped width line)

/-- The lines of a table's title. -/
def titleLines (title : String) (rows : List (List String)) : List String :=
  let width := ruledWidth rows
  (title.toList.splitOn '\n').flatMap fun line =>
    (broken true width (Markup.withoutTabs 0 line)).map (titleLine width)

end SystemDynamics.Layout
