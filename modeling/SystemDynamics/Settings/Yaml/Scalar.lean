import SystemDynamics.Settings.Yaml.Problem
import SystemDynamics.Settings.Yaml.Tag
import SystemDynamics.Text.Base64
import SystemDynamics.Text.LowerCase
import SystemDynamics.Text.Octets
/-!
# Scalars

What a scalar stands for by its tag. A text that is tagged with what its spelling would not give
is read with the same rules, and may turn out to have no such value.
-/

namespace SystemDynamics.Yaml

/-- The text without underscores. -/
def bare (cs : List Char) : List Char := cs.filter (· ≠ '_')

/-- The text behind its sign, and whether the sign is a minus. There has to be a text. -/
def signed (cs : List Char) : Except Problem (Bool × List Char) :=
  if cs.isEmpty then .error (.fault .noSuchCharacter) else .ok (Reading.sign cs)

/-- The whole number that a text writes in base ten. -/
def decimal (cs : List Char) : Except Problem Int :=
  match Reading.whole cs with
  | .number n => .ok n
  | .tooLong count => .error (.fault (.tooManyDigits count))
  | .unreadable => .error (.fault (.unreadable .whole (String.ofList cs)))

/-- The whole number that a text writes in a base that is a power of two. -/
def based (base : Nat) (cs : List Char) : Except Problem Int :=
  match Reading.wholeIn? base cs with
  | some n => .ok n
  | none => .error (.fault (.unreadableIn base (String.ofList cs)))

/-- The whole number that a text without its sign writes: in base two or sixteen behind its mark,
in base eight behind a zero, in base sixty between colons, else in base ten. -/
def magnitude : List Char → Except Problem Int
  | [] => .error (.fault .noSuchCharacter)
  | ['0'] => .ok 0
  | '0' :: 'b' :: ds => based 2 ds
  | '0' :: 'x' :: ds => based 16 ds
  | '0' :: ds => based 8 ('0' :: ds)
  | cs =>
    if cs.contains ':' then do
      return (← (parts cs).mapM decimal).foldl (fun n p => n * 60 + p) 0
    else decimal cs

/-- The whole number that a scalar writes. -/
def whole (cs : List Char) : Except Problem Int := do
  let (negative, body) ← signed (bare cs)
  let n ← magnitude body
  return if negative then -n else n

/-- The real number that a text writes. -/
def realPart (cs : List Char) : Except Problem Float :=
  match Reading.real? cs with
  | some x => .ok x
  | none => .error (.fault (.unreadable .real (String.ofList cs)))

/-- The real number that parts write in base sixty, added up from the last. -/
def realSexagesimal (xs : List Float) : Except Problem Float := do
  let (total, _) ← xs.reverse.foldlM (fun (total, unit) x => do
    match realOfWhole unit with
    | .ok u => return (total + x * u, unit * 60)
    | .error e => .error (.fault e)) ((0.0 : Float), (1 : Int))
  return total

/-- Whether a text names what is no number, with a sign or without. -/
def isNotNumber (cs : List Char) : Bool :=
  (Reading.sign (Text.lower (bare cs))).2 = ".nan".toList

/-- The real number that a text in small letters writes without its sign. What is no number has
no sign. -/
def realMagnitude (negative : Bool) (cs : List Char) : Except Problem Float := do
  let signed (x : Float) : Float := if negative then -x else x
  if cs = ".inf".toList then return signed (1.0 / 0.0)
  else if cs = ".nan".toList then return 0.0 / 0.0
  else if cs.contains ':' then return signed (← realSexagesimal (← (parts cs).mapM realPart))
  else return signed (← realPart cs)

/-- The real number that a scalar writes. -/
def real (cs : List Char) : Except Problem Float := do
  let (negative, body) ← signed (Text.lower (bare cs))
  realMagnitude negative body

/-- The truth value that a scalar spells in letters of either case. -/
def truth (cs : List Char) : Except Problem Bool :=
  let s := String.ofList (Text.lower cs)
  if s ∈ truths then .ok true
  else if s ∈ falsehoods then .ok false
  else .error (.fault (.noSuchKey s))

/-- The length of time as messages show it, of so many minutes. -/
def showMinutes (minutes : Int) : String :=
  let days := minutes.fdiv 1440
  let seconds := minutes.fmod 1440 * 60
  let parts :=
    (if days = 0 then [] else ["days=" ++ toString days]) ++
      (if seconds = 0 then [] else ["seconds=" ++ toString seconds])
  "datetime.timedelta(" ++ (if parts.isEmpty then "0" else ", ".intercalate parts) ++ ")"

/-- The offset of a zone in minutes, which has to be less than a day. -/
def offset : Option Zone → Except Problem (Option Int)
  | none => .ok none
  | some .common => .ok (some 0)
  | some (.shifted isAfter hours minutes) =>
    let amount : Int := hours * 60 + minutes
    let n := if isAfter then -amount else amount
    if amount < 1440 then .ok (some n)
    else
      .error (.noSuchValue ("offset must be a timedelta strictly between -timedelta(hours=24) " ++
        "and timedelta(hours=24), not " ++ showMinutes n ++ "."))

/-- The microseconds that the digits of a fraction write, those behind the sixth left out. -/
def microseconds (digits : List Char) : Nat :=
  inBase 10 ((digits ++ List.replicate 6 '0').take 6)

/-- The moment that is spelt, if there is such a day and time. -/
def momentOf (m : SpeltMoment) : Except Problem Moment := do
  let absent (message : String) : Except Problem Moment := .error (.noSuchValue message)
  let time ← m.time.mapM fun t => do
    return TimeOfDay.mk t.hour t.minute t.second (microseconds t.fraction) (← offset t.zone)
  if m.year = 0 then absent "year 0 is out of range"
  else if m.month = 0 ∨ 12 < m.month then absent "month must be in 1..12"
  else if m.day = 0 ∨ Moment.daysIn m.year m.month < m.day then
    absent "day is out of range for month"
  else
    match time with
    | none => return ⟨m.year, m.month, m.day, none⟩
    | some t =>
      if 23 < t.hour then absent "hour must be in 0..23"
      else if 59 < t.minute then absent "minute must be in 0..59"
      else if 59 < t.second then absent "second must be in 0..59"
      else return ⟨m.year, m.month, m.day, some t⟩

/-- The moment that a scalar writes. -/
def moment (cs : List Char) : Except Problem Moment :=
  match moment? false (withoutLineEnd cs) with
  | some m => momentOf m
  | none => .error .noMoment

/-- The bytes that a scalar writes in base 64. -/
def bytes (cs : List Char) (place : Place) : Except Problem (List UInt8) :=
  match Text.encodeAscii cs with
  | .error e => refuse (.badBytes ("failed to convert base64 data into ascii: " ++ e)) place
  | .ok digits =>
    match Text.Base64.decode digits with
    | .error e => refuse (.badBytes ("failed to decode base64 data: " ++ e)) place
    | .ok bytes => .ok bytes

/-- The datum that a text with a tag stands for. -/
def scalar (tag : Tag) (cs : List Char) (place : Place) : Except Problem Datum :=
  match tag with
  | .null => .ok .null
  | .text => .ok (.text (String.ofList cs))
  | .truth => (truth cs).map .truth
  | .whole => (whole cs).map .whole
  | .real => (real cs).map .real
  | .moment => (moment cs).map .moment
  | .bytes => (bytes cs place).map .bytes
  | .list | .mapping | .set | .pairs | .orderedMapping | .merge | .default | .other _ =>
    refuse (.unknownTag tag.name) place

end SystemDynamics.Yaml
