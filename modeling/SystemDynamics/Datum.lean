import SystemDynamics.Number.Decimal
/-!
# Data

Values whose type is only known when they arrive: settings read from a file, and what callers
hand over or supply as the result of a rate of their own. Mappings keep the order of their keys.
-/

namespace SystemDynamics

/-- A time of day. -/
structure TimeOfDay where
  hour : Nat
  minute : Nat
  second : Nat
  microsecond : Nat
  /-- How many minutes the clock is before the common time, if that is known. -/
  offset : Option Int
  deriving DecidableEq

/-- A day, perhaps with a time. -/
structure Moment where
  year : Nat
  month : Nat
  day : Nat
  time : Option TimeOfDay
  deriving DecidableEq

namespace Moment

def isLeapYear (year : Nat) : Bool := year % 4 = 0 && (year % 100 ≠ 0 || year % 400 = 0)

def daysIn (year month : Nat) : Nat :=
  if month = 2 then (if isLeapYear year then 29 else 28)
  else if month ∈ [4, 6, 9, 11] then 30
  else 31

/-- The number of the day, counted from the first day of the first year. -/
def dayNumber (m : Moment) : Nat :=
  let before := m.year - 1
  let months := (List.range (m.month - 1)).foldl (fun n k => n + daysIn m.year (k + 1)) 0
  365 * before + before / 4 - before / 100 + before / 400 + months + m.day

/-- The minute in which a clock shows a time, its day counted in minutes too, without its
offset. -/
def minuteNumber (m : Moment) (t : TimeOfDay) : Int :=
  ((m.dayNumber * 24 + t.hour) * 60 + t.minute : Nat) - t.offset.getD 0

/-- Whether two moments are one. Times of clocks with an offset are compared as common times. -/
def same (m n : Moment) : Bool :=
  match m.time, n.time with
  | none, none => m.dayNumber == n.dayNumber
  | some t, some u =>
    t.offset.isSome == u.offset.isSome && m.minuteNumber t == n.minuteNumber u &&
      t.second == u.second && t.microsecond == u.microsecond
  | _, _ => false

end Moment

/-- The key of an entry of a mapping. -/
inductive Key where
  | null
  | truth (b : Bool)
  | whole (n : Int)
  | real (x : Float)
  | text (s : String)
  | moment (m : Moment)
  | bytes (b : List UInt8)

namespace Key

/-- The number that a key counts as, if it is exact: truth values are one and zero. -/
def whole? : Key → Option Int
  | truth b => some (if b then 1 else 0)
  | whole n => some n
  | real x => (Binary.ofFloat? x).bind fun b => if b.floor = b.ceil then some b.floor else none
  | null | text _ | moment _ | bytes _ => none

/-- Whether two keys are one in a mapping: numbers are by their value, whatever their type. -/
def same (k l : Key) : Bool :=
  match k, l with
  | null, null => true
  | text s, text t => s == t
  | moment m, moment n => m.same n
  | bytes b, bytes c => b == c
  | real x, real y => x == y
  | k, l =>
    match k.whole?, l.whole? with
    | some m, some n => m == n
    | _, _ => false

end Key

inductive Datum where
  | null
  | truth (b : Bool)
  | whole (n : Int)
  | real (x : Float)
  | text (s : String)
  | moment (m : Moment)
  | bytes (b : List UInt8)
  | list (items : List Datum)
  | mapping (entries : List (Key × Datum))
  | set (members : List Key)
  /-- One of the lists or mappings that it stands in. -/
  | enclosing

namespace Datum

/-- The name of the datum's type in messages. -/
def typeName : Datum → String
  | null => "NoneType"
  | truth _ => "bool"
  | whole _ => "int"
  | real _ => "float"
  | text _ => "str"
  | moment m => if m.time.isSome then "datetime.datetime" else "datetime.date"
  | bytes _ => "bytes"
  | list _ => "list"
  | mapping _ | enclosing => "dict"
  | set _ => "set"

def isNull : Datum → Bool
  | null => true
  | _ => false

/-- Whether the datum counts as true: zero, the empty and the absent do not. -/
def holds : Datum → Bool
  | null => false
  | truth b => b
  | whole n => n != 0
  | real x => !(x == 0.0)
  | text s => s != ""
  | moment _ | enclosing => true
  | bytes b => !b.isEmpty
  | list items => !items.isEmpty
  | mapping entries => !entries.isEmpty
  | set members => !members.isEmpty

/-- A mapping whose keys are texts. -/
def record (entries : List (String × Datum)) : Datum :=
  mapping (entries.map fun (name, d) => (.text name, d))

/-- The datum as a key; lists, mappings and sets are none. -/
def key? : Datum → Option Key
  | null => some .null
  | truth b => some (.truth b)
  | whole n => some (.whole n)
  | real x => some (.real x)
  | text s => some (.text s)
  | moment m => some (.moment m)
  | bytes b => some (.bytes b)
  | list _ | mapping _ | set _ | enclosing => none

/-- The key as a datum. -/
def ofKey : Key → Datum
  | .null => null
  | .truth b => truth b
  | .whole n => whole n
  | .real x => real x
  | .text s => text s
  | .moment m => moment m
  | .bytes b => bytes b

/-- Adds an entry. One of the same key keeps its place and its key, and gets the value. -/
def putEntry (entries : List (Key × Datum)) (key : Key) (value : Datum) : List (Key × Datum) :=
  if entries.any (·.1.same key) then
    entries.map fun e => if e.1.same key then (e.1, value) else e
  else entries ++ [(key, value)]

/-- The value under a text, the last one if there are several. -/
def lookup? (entries : List (Key × Datum)) (name : String) : Option Datum :=
  (entries.reverse.find? (·.1.same (.text name))).map (·.2)

end Datum

end SystemDynamics
