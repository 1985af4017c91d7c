import SystemDynamics.Declaration.Basic
import SystemDynamics.Text.Alphanumeric
/-!
# Lines

What a line of a declaration text is by itself, once the blanks around it are gone: nothing that
counts, a constant, the opening of a block, or something that depends on the block around it.
-/

namespace SystemDynamics

inductive Line where
  | ignored
  | constant (name : String) (value : PropertyValue)
  | opening (kind : BlockKind) (name : String)
  | other
  deriving DecidableEq

namespace Line

open Text

/-- The rest of a text behind a word. -/
def after? : List Char → List Char → Option (List Char)
  | [], cs => some cs
  | _ :: _, [] => none
  | w :: ws, c :: cs => if w = c then after? ws cs else none

/-- The rest of a text behind a keyword and at least one blank. -/
def afterKeyword? (keyword : String) (cs : List Char) : Option (List Char) :=
  match after? keyword.toList cs with
  | some (c :: rest) => if isBlank c then some (stripLeft rest) else none
  | _ => none

/-- The name that a text starts with, and the rest. -/
def name? : List Char → Option (List Char × List Char)
  | [] => none
  | c :: cs =>
    if isNameStart c then some (c :: cs.takeWhile isWordChar, cs.dropWhile isWordChar) else none

/-- A constant: the keyword, a name, an equals sign, and a value on the same line. -/
def constant? (cs : List Char) : Option (String × PropertyValue) :=
  match (afterKeyword? "const" cs).bind name? with
  | none => none
  | some (name, rest) =>
    match stripLeft rest with
    | '=' :: value =>
      let value := stripLeft value
      if value.isEmpty || value.contains '\n' then none
      else some (String.ofList name, .read value)
    | _ => none

/-- The kinds of block that have a name of their own. -/
def namedKinds : List BlockKind := [.stock, .flow, .graph, .lookup2d, .lookup]

/-- The opening of a block of one kind: the keyword, a name, and a brace. -/
def openingOf? (cs : List Char) (kind : BlockKind) : Option (BlockKind × String) :=
  match (afterKeyword? kind.name cs).bind name? with
  | none => none
  | some (name, rest) =>
    match stripLeft rest with
    | '{' :: _ => some (kind, String.ofList name)
    | _ => none

/-- The opening of a block with the condition that ends a run, which has no name of its own. -/
def terminateOpening? (cs : List Char) : Option (BlockKind × String) :=
  match (after? BlockKind.terminate.name.toList cs).map stripLeft with
  | some ('{' :: _) => some (.terminate, BlockKind.terminate.name)
  | _ => none

def opening? (cs : List Char) : Option (BlockKind × String) :=
  (namedKinds.findSome? (openingOf? cs)).or (terminateOpening? cs)

/-- Whether a line does not count: it is empty or a comment. -/
def isIgnored : List Char → Bool
  | [] => true
  | '/' :: '/' :: _ => true
  | _ => false

/-- What a line without blanks around it is. -/
def read (cs : List Char) : Line :=
  if isIgnored cs then ignored
  else
    match constant? cs, opening? cs with
    | some (name, value), _ => constant name value
    | none, some (kind, name) => opening kind name
    | none, none => other

/-- The fields of a text that commas divide. -/
def fields : List Char → List (List Char)
  | [] => [[]]
  | c :: cs =>
    match fields cs with
    | [] => [[c]]
    | f :: fs => if c = ',' then [] :: f :: fs else (c :: f) :: fs

/-- The two coordinates in brackets that a line starts with, and the rest of the line. Further
fields in the brackets are passed over. -/
def coordinates? : List Char → Option (Float × Float × List Char)
  | '[' :: cs =>
    match cs.dropWhile (· ≠ ']') with
    | [] => none
    | _ :: rest =>
      match fields (cs.takeWhile (· ≠ ']')) with
      | f :: g :: _ =>
        match Reading.number? f, Reading.number? g with
        | some x, some y => some (x, y, rest)
        | _, _ => none
      | _ => none
  | _ => none

/-- The point that a line in a block of the kind gives: two coordinates, and on a surface a value
behind a colon. -/
def point? (kind : BlockKind) (cs : List Char) : Option (List Float) :=
  match coordinates? cs with
  | none => none
  | some (x, y, rest) =>
    if kind = .lookup2d then
      match stripLeft rest with
      | ':' :: value => (Reading.number? value).map fun z => [x, y, z]
      | _ => none
    else some [x, y]

/-- The key before the first colon of a line, and the value behind it. -/
def property? (cs : List Char) : Option (String × PropertyValue) :=
  match cs.dropWhile (· ≠ ':') with
  | [] => none
  | _ :: value => some (String.ofList (strip (cs.takeWhile (· ≠ ':'))), .read value)

end Line

end SystemDynamics
