import SystemDynamics.Number.Reading
/-!
# Tags

A tag says what a scalar, a list or a mapping stands for. A scalar that is not in quotes and has
no tag gets one by how it is spelt: that of the absent value, of a truth value, of a whole number
in base two, eight, ten, sixteen or sixty, of a real number, of a day, or else of a text.
-/

namespace SystemDynamics.Yaml

/-- What a value is meant to be. -/
inductive Tag where
  | null
  | truth
  | whole
  | real
  | moment
  | text
  | bytes
  | list
  | mapping
  | set
  /-- A list of pairs, each written as a mapping of one entry. -/
  | pairs
  /-- Pairs that are to have different first parts. -/
  | orderedMapping
  /-- The entries of the value belong to the mapping itself. -/
  | merge
  | default
  | other (name : String)
  deriving DecidableEq

namespace Tag

/-- What the names of the common tags begin with. -/
def common : String := "tag:yaml.org,2002:"

/-- The common tags and what their names end with. -/
def endings : List (Tag × String) :=
  [(null, "null"), (truth, "bool"), (whole, "int"), (real, "float"), (moment, "timestamp"),
    (text, "str"), (bytes, "binary"), (list, "seq"), (mapping, "map"), (set, "set"),
    (pairs, "pairs"), (orderedMapping, "omap"), (merge, "merge"), (default, "value")]

/-- The name in full. -/
def name : Tag → String
  | other name => name
  | t => common ++ ((endings.find? (·.1 = t)).map (·.2)).getD ""

/-- The tag of a name. -/
def ofName (name : String) : Tag :=
  match endings.find? (common ++ ·.2 = name) with
  | some (t, _) => t
  | none => other name

end Tag

/-- The spellings of the absent value. -/
def nulls : List String := ["", "~", "null", "Null", "NULL"]

/-- The spellings of true. -/
def truths : List String := ["yes", "Yes", "YES", "true", "True", "TRUE", "on", "On", "ON"]

/-- The spellings of false. -/
def falsehoods : List String := ["no", "No", "NO", "false", "False", "FALSE", "off", "Off", "OFF"]

/-- The spellings of infinity. -/
def infinities : List String := [".inf", ".Inf", ".INF"]

/-- The spellings of what is not a number. -/
def notNumbers : List String := [".nan", ".NaN", ".NAN"]

def isBinaryDigit (c : Char) : Bool := c == '0' || c == '1'

def isOctalDigit (c : Char) : Bool := '0' ≤ c && c ≤ '7'

def isHexDigit (c : Char) : Bool :=
  c.isDigit || ('a' ≤ c && c ≤ 'f') || ('A' ≤ c && c ≤ 'F')

/-- The value of a hexadecimal digit. -/
def hexValue (c : Char) : Nat :=
  if c.isDigit then c.toNat - '0'.toNat
  else if 'a' ≤ c then c.toNat - 'a'.toNat + 10
  else c.toNat - 'A'.toNat + 10

/-- The number that digits write in a base. -/
def inBase (base : Nat) (cs : List Char) : Nat :=
  cs.foldl (fun n c => n * base + hexValue c) 0

/-- The parts of a text that colons divide. -/
def parts : List Char → List (List Char)
  | [] => [[]]
  | c :: cs =>
    match parts cs with
    | [] => [[c]]
    | p :: ps => if c = ':' then [] :: p :: ps else (c :: p) :: ps

/-- Whether a part after the first is a number below sixty. -/
def isSixtieth : List Char → Bool
  | [c] => c.isDigit
  | [c, d] => '0' ≤ c && c ≤ '5' && d.isDigit
  | _ => false

/-- Whether a text has digits and underscores only, a digit first. -/
def isGrouped (cs : List Char) : Bool :=
  cs.head?.any Char.isDigit && cs.all fun c => c.isDigit || c == '_'

/-- Whether a text has characters of a kind and underscores only, and one at least. -/
def isRow (f : Char → Bool) (cs : List Char) : Bool :=
  !cs.isEmpty && cs.all fun c => f c || c == '_'

/-- Whether a scalar without its sign is spelt as a whole number. -/
def spellsWhole : List Char → Bool
  | [] => false
  | ['0'] => true
  | '0' :: 'b' :: ds => isRow isBinaryDigit ds
  | '0' :: 'x' :: ds => isRow isHexDigit ds
  | '0' :: ds => isRow isOctalDigit ds
  | cs =>
    match parts cs with
    | first :: rest => isGrouped first && rest.all isSixtieth
    | [] => false

/-- Whether an exponent stands here, which has to have a sign, or nothing. -/
def spellsExponent : List Char → Bool
  | [] => true
  | e :: s :: power =>
    (e = 'e' || e = 'E') && (s = '+' || s = '-') && !power.isEmpty && power.all Char.isDigit
  | _ => false

/-- Whether a scalar without its sign is spelt as a real number in digits: with a point and
perhaps an exponent, or in base sixty. -/
def spellsReal (hasSign : Bool) (cs : List Char) : Bool :=
  let before := cs.takeWhile (· ≠ '.')
  match cs.dropWhile (· ≠ '.') with
  | [] => false
  | _ :: rest =>
    let isPart := fun c : Char => c.isDigit || c == '_'
    let fraction := rest.takeWhile isPart
    let after := rest.dropWhile isPart
    match parts before with
    | [[]] => !hasSign && fraction.head?.any Char.isDigit && spellsExponent after
    | [whole] => isGrouped whole && spellsExponent after
    | first :: others => isGrouped first && others.all isSixtieth && after.isEmpty
    | [] => false

/-- Two digits that a text starts with, or one if two are not needed, and the rest. -/
def upToTwoDigits (needsTwo : Bool) : List Char → Option (Nat × List Char)
  | c :: d :: rest =>
    if c.isDigit && d.isDigit then some (inBase 10 [c, d], rest)
    else if c.isDigit && !needsTwo then some (inBase 10 [c], d :: rest)
    else none
  | [c] => if c.isDigit && !needsTwo then some (inBase 10 [c], []) else none
  | [] => none

/-- The year, the month and the day that a text starts with, and the rest. -/
def calendarDay? (needsTwo : Bool) (cs : List Char) : Option (Nat × Nat × Nat × List Char) := do
  let year := cs.takeWhile Char.isDigit
  match cs.dropWhile Char.isDigit with
  | '-' :: rest =>
    match ← upToTwoDigits needsTwo rest with
    | (month, '-' :: rest) =>
      let (day, rest) ← upToTwoDigits needsTwo rest
      if year.length = 4 then some (inBase 10 year, month, day, rest) else none
    | _ => none
  | _ => none

/-- A zone: the common one, or so many hours and minutes before or after it. -/
inductive Zone where
  | common
  | shifted (isAfter : Bool) (hours minutes : Nat)

/-- The zone that a text names behind blanks, none for nothing; or no such text. -/
def zone? (cs : List Char) : Option (Option Zone) :=
  match cs, cs.dropWhile fun c => c = ' ' || c = '\t' with
  | [], _ => some none
  | _, ['Z'] => some (some .common)
  | _, s :: rest =>
    if s = '+' || s = '-' then
      match upToTwoDigits false rest with
      | some (hours, []) => some (some (.shifted (s = '-') hours 0))
      | some (hours, ':' :: rest) =>
        match upToTwoDigits true rest with
        | some (minutes, []) => some (some (.shifted (s = '-') hours minutes))
        | _ => none
      | _ => none
    else none
  | _, [] => none

/-- A time of day as it is spelt: with the digits of the fraction of its second. -/
structure SpeltTime where
  hour : Nat
  minute : Nat
  second : Nat
  fraction : List Char
  zone : Option Zone

/-- The time of day that stands behind a day. -/
def timeOfDay? (cs : List Char) : Option SpeltTime := do
  let body ←
    match cs with
    | 'T' :: rest | 't' :: rest => some rest
    | _ =>
      let rest := cs.dropWhile fun c => c = ' ' || c = '\t'
      if rest.length < cs.length then some rest else none
  match ← upToTwoDigits false body with
  | (hour, ':' :: rest) =>
    match ← upToTwoDigits true rest with
    | (minute, ':' :: rest) =>
      let (second, rest) ← upToTwoDigits true rest
      let (fraction, after) :=
        match rest with
        | '.' :: rest => (rest.takeWhile Char.isDigit, rest.dropWhile Char.isDigit)
        | rest => ([], rest)
      return ⟨hour, minute, second, fraction, ← zone? after⟩
    | _ => none
  | _ => none

/-- A day as it is spelt, perhaps with a time. -/
structure SpeltMoment where
  year : Nat
  month : Nat
  day : Nat
  time : Option SpeltTime

/-- The day or time that a scalar writes, if it does. A day alone may have to be written in two
digits each for the month and the day. -/
def moment? (needsTwo : Bool) (cs : List Char) : Option SpeltMoment :=
  match calendarDay? needsTwo cs, calendarDay? false cs with
  | some (year, month, day, []), _ => some ⟨year, month, day, none⟩
  | _, some (year, month, day, rest) =>
    (timeOfDay? rest).map fun t => ⟨year, month, day, some t⟩
  | _, none => none

/-- The text without one line end at its end; the spelling of a text does not count it. -/
def withoutLineEnd (cs : List Char) : List Char :=
  if 1 < cs.length && cs.getLast? = some '\n' then cs.dropLast else cs

/-- The tag that a scalar has by how it is spelt. -/
def Tag.ofSpelling (cs : List Char) : Tag :=
  let cs := withoutLineEnd cs
  let s := String.ofList cs
  let (_, body) := Reading.sign cs
  let hasSign := body.length ≠ cs.length
  if s ∈ nulls then .null
  else if s ∈ truths ∨ s ∈ falsehoods then .truth
  else if spellsReal hasSign body ∨ String.ofList body ∈ infinities ∨ s ∈ notNumbers then .real
  else if spellsWhole body then .whole
  else if (moment? true cs).isSome then .moment
  else if s = "<<" then .merge
  else if s = "=" then .default
  else .text

end SystemDynamics.Yaml
