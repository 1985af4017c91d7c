import SystemDynamics.Settings.Yaml.Scalar
/-!
# Quoted scalars

A scalar in single quotes holds its characters, a quote written twice. One in double quotes may
hold escapes. In both, a line end with the blanks around it is one blank, and each further line
end is kept.
-/

namespace SystemDynamics.Yaml

/-- A character of a quoted scalar. -/
inductive Mark where
  | written (c : Char)
  /-- Kept whatever it is, since it comes from an escape. -/
  | kept (c : Char)
  /-- An escaped line end, which is not there. -/
  | joint

/-- The character that an escape of one character stands for. -/
def escaped? : Char → Option Char
  | 'n' => some '\n'
  | 't' => some '\t'
  | '\t' => some '\t'
  | 'r' => some '\r'
  | '0' => some '\x00'
  | 'a' => some '\x07'
  | 'b' => some '\x08'
  | 'v' => some '\x0b'
  | 'f' => some '\x0c'
  | 'e' => some '\x1b'
  | '"' => some '"'
  | '/' => some '/'
  | '\\' => some '\\'
  | ' ' => some ' '
  | 'N' => some '\x85'
  | '_' => some '\xa0'
  | 'L' => some '\u2028'
  | 'P' => some '\u2029'
  | _ => none

/-- How many hexadecimal digits follow an escape. -/
def escapeDigits : Char → Nat
  | 'x' => 2
  | 'u' => 4
  | 'U' => 8
  | _ => 0

/-- What an escape stands for behind its backslash, and how many characters it takes there. -/
def escape (scalar : Place) (p : Cursor) : Except Problem (Mark × Nat) :=
  match p.rest with
  | [] => refuse (.unknownEscape scalar none) p.place
  | c :: cs =>
    if isBreak c then .ok (.joint, 1)
    else
      match escaped? c, escapeDigits c with
      | some d, _ => .ok (.kept d, 1)
      | none, 0 => refuse (.unknownEscape scalar (some c)) p.place
      | none, count =>
        let digits := (cs.take count).takeWhile isHexDigit
        if digits.length < count then
          refuse (.expected "while scanning a double-quoted scalar" scalar
            ("escape sequence of " ++ toString count ++ " hexadecimal numbers")
            (cs.drop digits.length).head?) (p.advance 1).place
        else if 0x7fffffff < inBase 16 digits then .error .codeTooLarge
        else if 0x10ffff < inBase 16 digits then
          .error (.noSuchValue "chr() arg not in range(0x110000)")
        else .ok (.kept (Text.charOf (inBase 16 digits)), count + 1)

/-- The characters of a scalar behind its first quote, and the cursor behind its last one. The
fuel bounds the characters. -/
def marks (isDouble : Bool) (scalar : Place) :
    Nat → Cursor → Except Problem (List Mark × Cursor)
  | 0, p => refuse (.unendedScalar scalar) p.place
  | fuel + 1, p =>
    let behind (m : Mark) (count : Nat) : Except Problem (List Mark × Cursor) := do
      let (ms, q) ← marks isDouble scalar fuel (p.advance count)
      return (m :: ms, q)
    if p.isAtSeparator then refuse (.separatorInScalar scalar) p.place
    else
      match p.rest with
      | [] => refuse (.unendedScalar scalar) p.place
      | c :: cs =>
        if isDouble then
          if c = '"' then .ok ([], p.advance 1)
          else if c = '\\' then do
            let (m, count) ← escape scalar (p.advance 1)
            behind m (count + 1)
          else behind (.written c) 1
        else if c = '\'' then
          if cs.head? = some '\'' then behind (.kept '\'') 2 else .ok ([], p.advance 1)
        else behind (.written c) 1

/-- Where a scalar is being read: in a line, after blanks there, or at line ends. -/
inductive Fold where
  | line (blanks : List Char)
  | gap (first : Char) (others : List Char)
  | joint (others : List Char)

/-- What has been put off. -/
def Fold.held : Fold → List Char
  | line blanks => blanks
  | gap first others => folded first (others.map lineEnd)
  | joint others => others.map lineEnd

/-- The characters of a quoted scalar. -/
def unfold (f : Fold) : List Mark → List Char
  | [] => f.held
  | .kept c :: ms => f.held ++ c :: unfold (.line []) ms
  | .joint :: ms => f.held ++ unfold (.joint []) ms
  | .written c :: ms =>
    match f with
    | .line blanks =>
      if isSpace c then unfold (.line (blanks ++ [c])) ms
      else if isBreak c then unfold (.gap c []) ms
      else blanks ++ c :: unfold (.line []) ms
    | .gap first others =>
      if isSpace c then unfold f ms
      else if isBreak c then unfold (.gap first (others ++ [c])) ms
      else f.held ++ c :: unfold (.line []) ms
    | .joint others =>
      if isSpace c then unfold f ms
      else if isBreak c then unfold (.joint (others ++ [c])) ms
      else f.held ++ c :: unfold (.line []) ms

/-- The scalar in quotes that stands at a cursor, and the cursor behind it. -/
def quotedScalar (p : Cursor) : Except Problem (String × Cursor) := do
  let (ms, q) ← marks (p.head? = some '"') p.place (p.rest.length + 1) (p.advance 1)
  return (String.ofList (unfold (.line []) ms), q)

end SystemDynamics.Yaml
