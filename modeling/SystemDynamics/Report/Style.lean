import SystemDynamics.Report.Color
/-!
# Styles

A style is described by words: attributes, which may have short names and may be taken back, a
color, a background and a link. Descriptions of the same style have one normal form; a text that
describes none stands for itself. A color in which a number is missing is a fault.
-/

namespace SystemDynamics.Style

/-- The spellings of attributes. -/
def spellings : List (String × String) :=
  [("dim", "dim"), ("d", "dim"), ("bold", "bold"), ("b", "bold"), ("italic", "italic"),
   ("i", "italic"), ("underline", "underline"), ("u", "underline"), ("blink", "blink"),
   ("blink2", "blink2"), ("reverse", "reverse"), ("r", "reverse"), ("conceal", "conceal"),
   ("c", "conceal"), ("strike", "strike"), ("s", "strike"), ("underline2", "underline2"),
   ("uu", "underline2"), ("frame", "frame"), ("encircle", "encircle"), ("overline", "overline"),
   ("o", "overline")]

/-- The attributes in the order of the normal form. -/
def attributes : List String :=
  ["bold", "dim", "italic", "underline", "blink", "blink2", "reverse", "conceal", "strike",
   "underline2", "frame", "encircle", "overline"]

/-- What the words of a description have set so far, the latest setting of an attribute first. -/
structure Description where
  settings : List (String × Bool) := []
  color : Option String := none
  background : Option String := none
  link : Option String := none

/-- Why words describe no style. -/
inductive Refusal where
  | noStyle
  | fault (f : Fault)

/-- The color that a word is. -/
def colorOf (word : String) : Except Refusal String :=
  match Color.read word.toList with
  | .ok (some color) => .ok color
  | .ok none => .error .noStyle
  | .error f => .error (.fault f)

/-- Reads the words of a description. -/
def read (d : Description) : List String → Except Refusal Description
  | [] => .ok d
  | word :: rest =>
    let word := String.ofList (Text.lower word.toList)
    match word, rest with
    | "on", color :: rest => do read { d with background := some (← colorOf color) } rest
    | "not", taken :: rest =>
      match spellings.lookup taken with
      | some a => read { d with settings := (a, false) :: d.settings } rest
      | none => .error .noStyle
    | "link", target :: rest => read { d with link := some target } rest
    | "on", [] | "not", [] | "link", [] => .error .noStyle
    | w, rest =>
      match spellings.lookup w with
      | some a => read { d with settings := (a, true) :: d.settings } rest
      | none => do read { d with color := some (← colorOf w) } rest

/-- The words of a description in normal form. -/
def Description.words (d : Description) : List String :=
  (attributes.flatMap fun a =>
    match d.settings.lookup a with
    | some true => [a]
    | some false => ["not", a]
    | none => []) ++
  d.color.toList ++ (d.background.map fun c => ["on", c]).getD [] ++
  (d.link.map fun l => ["link", l]).getD []

/-- The words that blanks divide. -/
def wordsOf (cs : List Char) : List String :=
  ((cs.splitOnP Text.isBlank).filter (!·.isEmpty)).map String.ofList

/-- The style that a text describes. -/
def ofText (text : List Char) : Except Refusal Description :=
  if String.ofList (Text.strip text) = "none" then .ok {} else read {} (wordsOf text)

/-- The normal form of a description. -/
def normal (text : List Char) : Except Fault String :=
  match ofText text with
  | .ok d => .ok (if d.words.isEmpty then "none" else " ".intercalate d.words)
  | .error .noStyle => .ok (String.ofList (Text.lower (Text.strip text)))
  | .error (.fault f) => .error f

end SystemDynamics.Style
