import SystemDynamics.Declaration.Line
import SystemDynamics.Notice
/-!
# Reading declarations

Declarations are read line by line. At most one block is open; opening another gives up the open
one, and so does the end of the text. A constant is complete on its line, inside a block or not.
A line that is of no use is passed over, with an entry in the log.
-/

namespace SystemDynamics

/-- What has been read so far. -/
structure Reader where
  declarations : List Declaration
  /-- The block that is open. -/
  current : Option Declaration
  deriving DecidableEq

namespace Reader

def start : Reader := ⟨[], none⟩

/-- A log entry about a line. -/
def entry (number : Nat) (text : String) : LogEntry :=
  ⟨.debug, .declarations, "line " ++ toString number ++ ": " ++ text⟩

/-- How the log names a block that was given up. -/
def neverClosed (d : Declaration) : String :=
  d.kind.name ++ " block '" ++ d.name ++ "' never closed; discarded"

/-- Opens a block, giving up the one that is open. -/
def openBlock (r : Reader) (number : Nat) (kind : BlockKind) (name : String) : Noted Reader :=
  .logged { r with current := some ⟨kind, name, .empty, [], number⟩ }
    (r.current.toList.map fun d => entry number (neverClosed d))

/-- Closes the open block. -/
def closeBlock (r : Reader) (number : Nat) : Noted Reader :=
  match r.current with
  | none => .logged r [entry number "stray closing brace"]
  | some d => .logged ⟨r.declarations ++ [d], none⟩ []

/-- Passes a line over. -/
def skip (r : Reader) (number : Nat) (line : List Char) : Noted Reader :=
  .logged r [entry number ("skipped " ++ Text.quoted (String.ofList line))]

/-- A line in an open block that neither declares a constant nor opens a block. -/
def feedBlock (r : Reader) (d : Declaration) (number : Nat) (line : List Char) : Noted Reader :=
  if d.kind.holdsPoints && line.head? == some '[' then
    match Line.point? d.kind line with
    | some p => .logged { r with current := some { d with points := d.points ++ [p] } } []
    | none =>
      .logged r [entry number ("dropped lookup point " ++ Text.quoted (String.ofList line))]
  else
    match Line.property? line with
    | some (key, value) =>
      .logged { r with current := some { d with properties := d.properties.insert key value } } []
    | none => if line = ['}'] then r.closeBlock number else r.skip number line

/-- Reads one more line. -/
def feed (r : Reader) (number : Nat) (raw : List Char) : Noted Reader :=
  let line := Text.strip raw
  match Line.read line with
  | .ignored => .logged r []
  | .constant name value =>
    .logged { r with declarations := r.declarations ++
      [⟨.const, name, .ofList [("value", value)], [], number⟩] } []
  | .opening kind name => r.openBlock number kind name
  | .other =>
    match r.current with
    | some d => r.feedBlock d number line
    | none => if line = ['}'] then r.closeBlock number else r.skip number line

/-- Ends the reading; a block that is still open is given up. -/
def finish (r : Reader) : Noted (List Declaration) :=
  .logged r.declarations
    (r.current.toList.map fun d => ⟨.debug, .declarations, neverClosed d⟩)

/-- Reads lines numbered from the given number on. -/
def feedAll (r : Reader) (number : Nat) : List (List Char) → Noted Reader
  | [] => pure r
  | line :: rest => do feedAll (← r.feed number line) (number + 1) rest

end Reader

namespace Declaration

/-- The declarations that lines make. -/
def ofLines (lines : List (List Char)) : Noted (List Declaration) := do
  (← Reader.start.feedAll 1 lines).finish

/-- The declarations that a text makes. -/
def ofText (text : String) : Noted (List Declaration) := ofLines (Text.lines text.toList)

end Declaration

end SystemDynamics
