import SystemDynamics.Datum
import SystemDynamics.Number.Reading
import SystemDynamics.Text.Quoted
/-!
# JSON

Data are written as JSON with one member a line, two blanks of indentation a level, and nothing
but ASCII. The special values of real numbers are written by their names.
-/

namespace SystemDynamics.Json

/-- A character as an escape of four hexadecimal digits, of two such escapes if it needs more. -/
def unicodeEscape (n : Nat) : List Char :=
  if n < 0x10000 then '\\' :: 'u' :: Text.hex 4 n
  else
    let high := 0xD800 + (n - 0x10000) / 0x400
    let low := 0xDC00 + (n - 0x10000) % 0x400
    '\\' :: 'u' :: Text.hex 4 high ++ '\\' :: 'u' :: Text.hex 4 low

/-- A character inside of a text. -/
def character (c : Char) : List Char :=
  if c = '"' then ['\\', '"']
  else if c = '\\' then ['\\', '\\']
  else if c = '\n' then ['\\', 'n']
  else if c = '\r' then ['\\', 'r']
  else if c = '\t' then ['\\', 't']
  else if c = '\x08' then ['\\', 'b']
  else if c = '\x0c' then ['\\', 'f']
  else if ' ' ≤ c ∧ c ≤ '~' then [c]
  else unicodeEscape (Text.codeOf c)

def text (s : String) : String :=
  String.ofList ('"' :: s.toList.flatMap character ++ ['"'])

def number (x : Float) : String :=
  if x.isNaN then "NaN" else if x.isInf then (if x < 0.0 then "-Infinity" else "Infinity")
  else exactText x

/-- The beginning of a line at a level. -/
def lineStart (level : Nat) : String := String.ofList ('\n' :: List.replicate (2 * level) ' ')

/-- Members between brackets, one a line; nothing at all between them if there is none. -/
def enclosed (left right : String) (level : Nat) (members : List String) : String :=
  if members.isEmpty then left ++ right
  else
    left ++ lineStart (level + 1) ++ ("," ++ lineStart (level + 1)).intercalate members ++
      lineStart level ++ right

/-- The text of a key. -/
def key : Key → String
  | .null => "null"
  | .truth b => if b then "true" else "false"
  | .whole n => toString n
  | .real x => number x
  | .text s => s
  | .moment _ | .bytes _ => ""

mutual

/-- A datum at a level of indentation. -/
def write (level : Nat) : Datum → String
  | .null => "null"
  | .truth b => if b then "true" else "false"
  | .whole n => toString n
  | .real x => number x
  | .text s => text s
  | .moment _ | .bytes _ | .set _ | .enclosing => ""
  | .list items => enclosed "[" "]" level (writeItems (level + 1) items)
  | .mapping entries => enclosed "\x7b" "\x7d" level (writeEntries (level + 1) entries)

def writeItems (level : Nat) : List Datum → List String
  | [] => []
  | d :: rest => write level d :: writeItems level rest

def writeEntries (level : Nat) : List (Key × Datum) → List String
  | [] => []
  | (k, d) :: rest => (text (key k) ++ ": " ++ write level d) :: writeEntries level rest

end

/-- Why a datum is not written. -/
inductive Unwritable where
  /-- JSON has no form for a value of this type. -/
  | value (typeName : String)
  /-- JSON has no form for a key of this type. -/
  | key (typeName : String)
  /-- It stands within itself. -/
  | circular
  | tooManyDigits
  deriving DecidableEq

namespace Unwritable

/-- The kind of the error, as reports name it. -/
def kind : Unwritable → String
  | value _ | key _ => "TypeError"
  | circular | tooManyDigits => "ValueError"

def message : Unwritable → String
  | value typeName => "Object of type " ++ typeName ++ " is not JSON serializable"
  | key typeName => "keys must be str, int, float, bool or None, not " ++ typeName
  | circular => "Circular reference detected"
  | tooManyDigits =>
    "Exceeds the limit (" ++ toString Reading.digitLimit ++
      " digits) for integer string conversion; use sys.set_int_max_str_digits() to increase the limit"

/-- Why a whole number is not written, if it is not. -/
def ofWhole? (n : Int) : Option Unwritable :=
  if n.natAbs < Nat.pow 10 Reading.digitLimit then none else some tooManyDigits

/-- The name of a moment's type. -/
def momentName (m : Moment) : String := if m.time.isSome then "datetime" else "date"

/-- Why a key is not written, if it is not. -/
def ofKey? : Key → Option Unwritable
  | .moment m => some (key (momentName m))
  | .bytes _ => some (key "bytes")
  | .whole n => ofWhole? n
  | .null | .truth _ | .real _ | .text _ => none

end Unwritable

mutual

/-- Why a datum is not written, by the first of its parts that is not. -/
def unwritable? : Datum → Option Unwritable
  | .moment m => some (.value (Unwritable.momentName m))
  | .bytes _ => some (.value "bytes")
  | .set _ => some (.value "set")
  | .list items => unwritableAmong? items
  | .mapping entries => unwritableIn? entries
  | .enclosing => some .circular
  | .whole n => Unwritable.ofWhole? n
  | .null | .truth _ | .real _ | .text _ => none

def unwritableAmong? : List Datum → Option Unwritable
  | [] => none
  | d :: rest => (unwritable? d).or (unwritableAmong? rest)

def unwritableIn? : List (Key × Datum) → Option Unwritable
  | [] => none
  | (k, d) :: rest =>
    match Unwritable.ofKey? k with
    | some u => some u
    | none => (unwritable? d).or (unwritableIn? rest)

end

end SystemDynamics.Json
