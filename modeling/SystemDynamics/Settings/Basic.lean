import SystemDynamics.Number.Reading
import SystemDynamics.Datum
import SystemDynamics.Fault
import SystemDynamics.Log
import SystemDynamics.Text.Octets
/-!
# Settings

The settings of a simulation are checked one by one when they are made from data. A number may
arrive as a text or a truth value; whatever goes beyond that is an issue of its field, and the
issues of all fields are reported together. Entries under other names are kept as they are.
-/

namespace SystemDynamics

/-- What is wrong with the value of a field. -/
inductive Issue where
  | notAboveZero
  | below (least : Nat)
  | notANumber
  | unreadableNumber
  | notWhole
  | unreadableWhole
  | fractional
  | tooLarge
  | infinite
  | notAText
  /-- A text that is not made of characters, or bytes that write none. -/
  | notUnicode
  | unknownLevel (text : String)
  deriving DecidableEq

def Issue.message : Issue → String
  | notAboveZero => "Input should be greater than 0"
  | below least => "Input should be greater than or equal to " ++ toString least
  | notANumber => "Input should be a valid number"
  | unreadableNumber => "Input should be a valid number, unable to parse string as a number"
  | notWhole => "Input should be a valid integer"
  | unreadableWhole => "Input should be a valid integer, unable to parse string as an integer"
  | fractional => "Input should be a valid integer, got a number with a fractional part"
  | tooLarge => "Unable to parse input string as an integer, exceeded maximum size"
  | infinite => "Input should be a finite number"
  | notAText => "Input should be a valid string"
  | notUnicode => "Input should be a valid string, unable to parse raw data as a unicode string"
  | unknownLevel text =>
    "Value error, log_level must be a logging level name, got " ++ Text.quoted text

structure Settings where
  dt : Float
  steps : Nat
  historyCapacity : Nat
  batchSize : Option Nat
  diagnosticsCapacity : Nat
  logLevel : String
  /-- The entries under other names. -/
  extras : List (String × Datum)

namespace Settings

def default : Settings where
  dt := 1.0
  steps := 100
  historyCapacity := 1000
  batchSize := none
  diagnosticsCapacity := 200
  logLevel := "WARNING"
  extras := []

/-- The names of the fields, in the order in which they are checked and shown. -/
def fieldNames : List String :=
  ["dt", "steps", "history_capacity", "batch_size", "diagnostics_capacity", "log_level"]

/-- Whether two underscores stand together. -/
def doubled : List Char → Bool
  | '_' :: '_' :: _ => true
  | _ :: rest => doubled rest
  | [] => false

/-- The text without its underscores, none if it has none, or one at an end, or two together. -/
def withoutUnderscores? (cs : List Char) : Option (List Char) :=
  if cs.head? = some '_' ∨ cs.getLast? = some '_' ∨ doubled cs ∨ !cs.contains '_' then none
  else some (cs.filter (· ≠ '_'))

def isAscii (cs : List Char) : Bool := cs.all (·.toNat < 128)

/-- A number as a text writes it, a special value or a literal in ASCII, perhaps with a sign. -/
def plainNumber? (cs : List Char) : Option Float :=
  let (negative, body) := Reading.sign cs
  let magnitude : Option Float :=
    match Reading.namedValue? body, Reading.literal? body with
    | some x, _ => some x
    | none, some (l, []) => if isAscii body then some l.value else none
    | none, _ => none
  magnitude.map fun x => if negative then -x else x

/-- The number that a text writes. White space around it is allowed, or else underscores. -/
def number? (cs : List Char) : Option Float :=
  (plainNumber? (Text.trim cs)).or ((withoutUnderscores? cs).bind plainNumber?)

/-- The text from its first digit that is not zero on, where zeros and underscores come first; a
zero is kept if only zeros come, or a point. -/
def withoutZeros? : List Char → Option (List Char)
  | '0' :: cs =>
    match cs.dropWhile fun c => c = '0' || c = '_' with
    | [] => some [cs.getLastD '0']
    | '.' :: rest => some (((cs.takeWhile (· ≠ '.')).getLastD '0') :: '.' :: rest)
    | c :: rest => if c.isDigit || c = '-' then some (c :: rest) else none
  | c :: cs => if c.isDigit || c = '-' then some (c :: cs) else none
  | [] => none

/-- The text without a point and the zeros behind it. -/
def withoutFraction (cs : List Char) : List Char :=
  match cs.dropWhile (· ≠ '.') with
  | _ :: d :: zeros => if (d :: zeros).all (· = '0') then cs.takeWhile (· ≠ '.') else cs
  | _ => cs

/-- A whole number in digits alone, perhaps behind a minus sign, without zeros in front. That
there are too many digits is found before what follows them. -/
def plainWhole (cs : List Char) : Reading.Whole :=
  let (negative, body) :=
    match cs with
    | '-' :: body => (true, body)
    | _ => (false, cs)
  match body.takeWhile Char.isDigit, body.dropWhile Char.isDigit with
  | [], _ => .unreadable
  | ['0'], [] => .number 0
  | '0' :: _, _ => .unreadable
  | digits, rest =>
    match Reading.signedWhole negative digits with
    | .number n => if rest.isEmpty then .number n else .unreadable
    | other => other

/-- The text of a whole number without what does no harm to it: white space around it, a plus
sign, zeros in front, a fraction of zeros, and single underscores between other characters. -/
def cleaned? (cs : List Char) : Option (List Char) := do
  let unsigned ←
    match Text.trim cs with
    | '+' :: '-' :: _ => none
    | '+' :: rest => some rest
    | rest => some rest
  let (minus, body) :=
    match unsigned with
    | '-' :: rest => (['-'], rest)
    | rest => ([], rest)
  let digits := withoutFraction (← withoutZeros? body)
  return minus ++ (withoutUnderscores? digits).getD digits

/-- The whole number that a text writes, as it stands or cleaned. -/
def whole (cs : List Char) : Reading.Whole :=
  match plainWhole cs with
  | .unreadable =>
    match (cleaned? cs).map plainWhole with
    | some (.number n) => .number n
    | _ => .unreadable
  | other => other

/-- What a text writes of which a half of a character is no part. -/
def ofText {α : Type} (read : List Char → Except Issue α) (cs : List Char) : Except Issue α :=
  if cs.any Text.isStandIn then .error .notUnicode else read cs

/-- The number that a text writes. -/
def numberOf (cs : List Char) : Except Issue Float :=
  match number? cs with
  | some x => .ok x
  | none => .error .unreadableNumber

/-- A datum as a number. -/
def toNumber : Datum → Except Issue Float
  | .truth b => .ok (if b then 1.0 else 0.0)
  | .whole n =>
    match nearestWhole? n with
    | some x => .ok x
    | none => .error .notANumber
  | .real x => .ok x
  | .text s => ofText numberOf s.toList
  | .bytes b =>
    match Text.decode b with
    | .ok cs => numberOf cs
    | .error _ => .error .unreadableNumber
  | _ => .error .notANumber

/-- The whole number that a text writes. -/
def wholeOf (cs : List Char) : Except Issue Int :=
  match whole cs with
  | .number n => .ok n
  | .tooLong _ => .error .tooLarge
  | .unreadable => .error .unreadableWhole

/-- A datum as a whole number. -/
def toWhole : Datum → Except Issue Int
  | .truth b => .ok (if b then 1 else 0)
  | .whole n => .ok n
  | .real x =>
    match Binary.ofFloat? x with
    | none => .error .infinite
    | some b =>
      if b.floor ≠ b.ceil then .error .fractional
      else if b.floor.natAbs < Nat.pow 2 63 then .ok b.floor
      else .error .tooLarge
  | .text s => ofText wholeOf s.toList
  | .bytes b =>
    match Text.decode b with
    | .ok cs => wholeOf cs
    | .error _ => .error .unreadableWhole
  | _ => .error .notWhole

/-- A number above zero. -/
def positive (d : Datum) : Except Issue Float := do
  let x ← toNumber d
  if 0.0 < x then return x else throw .notAboveZero

/-- A whole number of at least the given size. -/
def atLeast (least : Nat) (d : Datum) : Except Issue Nat := do
  let n ← toWhole d
  if least ≤ n then return n.toNat else throw (.below least)

/-- The names of levels, with how much an entry has to matter to be shown. -/
def levels : List (String × Nat) :=
  [("CRITICAL", 50), ("FATAL", 50), ("ERROR", 40), ("WARN", 30), ("WARNING", 30), ("INFO", 20),
   ("DEBUG", 10), ("NOTSET", 0)]

/-- The upper case of a letter in so far as it can lead to a level name: ASCII letters, the
dotless i and the long s. -/
def upper (c : Char) : Char :=
  if c = 'ı' then 'I' else if c = 'ſ' then 'S' else c.toUpper

/-- The name of a level that a text gives in letters of either case. -/
def levelOf (s : String) : Except Issue String :=
  let name := s.map upper
  if (levels.lookup name).isSome then .ok name else .error (.unknownLevel s)

/-- A datum as the name of a level. -/
def level : Datum → Except Issue String
  | .text s => levelOf s
  | .bytes b =>
    match Text.decode b with
    | .ok cs => levelOf (String.ofList cs)
    | .error _ => .error .notUnicode
  | _ => .error .notAText

/-- A field of the entries: its value, or its default if there is no entry. -/
def field {α : Type} (entries : List (String × Datum)) (name : String) (default : α)
    (read : Datum → Except Issue α) : Except Issue α :=
  match entries.reverse.lookup name with
  | some d => read d
  | none => .ok default

/-- An optional count; the absent value is allowed. -/
def optionalCount (least : Nat) : Datum → Except Issue (Option Nat)
  | .null => .ok none
  | d => (atLeast least d).map some

/-- The issue of a field, if it has one. -/
def issue? {α : Type} (name : String) : Except Issue α → Option (String × Issue)
  | .ok _ => none
  | .error e => some (name, e)

/-- The settings that entries make, or the issues of their fields. -/
def ofEntries (entries : List (String × Datum)) : Except (List (String × Issue)) Settings :=
  let dt := field entries "dt" default.dt positive
  let steps := field entries "steps" default.steps (atLeast 0)
  let history := field entries "history_capacity" default.historyCapacity (atLeast 1)
  let batch := field entries "batch_size" default.batchSize (optionalCount 1)
  let diagnostics := field entries "diagnostics_capacity" default.diagnosticsCapacity (atLeast 1)
  let level := field entries "log_level" default.logLevel level
  match dt, steps, history, batch, diagnostics, level with
  | .ok dt, .ok steps, .ok historyCapacity, .ok batchSize, .ok diagnosticsCapacity,
      .ok logLevel =>
    .ok { dt, steps, historyCapacity, batchSize, diagnosticsCapacity, logLevel
          extras := entries.filter fun e => !fieldNames.contains e.1 }
  | _, _, _, _, _, _ =>
    .error ([issue? "dt" dt, issue? "steps" steps, issue? "history_capacity" history,
      issue? "batch_size" batch, issue? "diagnostics_capacity" diagnostics,
      issue? "log_level" level].filterMap id)

/-- The entries of the settings; what is absent is left out, also among the extras. -/
def dump (s : Settings) : List (String × Datum) :=
  [("dt", .real s.dt), ("steps", .whole s.steps), ("history_capacity", .whole s.historyCapacity)]
    ++ (s.batchSize.map fun n => ("batch_size", Datum.whole n)).toList
    ++ [("diagnostics_capacity", .whole s.diagnosticsCapacity), ("log_level", .text s.logLevel)]
    ++ s.extras.filter fun e => !e.2.isNull

/-- Whether log entries of a level are to be shown. -/
def logs (s : Settings) (level : Level) : Bool :=
  (levels.lookup s.logLevel).any fun n => (n : Int) ≤ level.rank

/-- The size of the batches of a run of so many steps, by default as many as are set. -/
def effectiveBatchSize (s : Settings) (steps : Option Int) : Int :=
  match s.batchSize with
  | some n => n
  | none => max 1 ((steps.getD s.steps).fdiv 100)

end Settings

end SystemDynamics
