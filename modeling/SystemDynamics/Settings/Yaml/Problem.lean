import SystemDynamics.Fault
import SystemDynamics.Settings.Yaml.Cursor
/-!
# Why a document has no value

A document may break the rules at a place, name what is not there, or hold a scalar that has no
value. Each problem has a kind and a message; most messages name the place, and often also where
the thing begins that was being read there.
-/

namespace SystemDynamics.Yaml

/-- What is wrong at a place. -/
inductive Flaw where
  /-- No token begins with what stands there. -/
  | noToken (found : Option Char)
  /-- The colon behind a key that has to be one is missing. -/
  | noColon (key : Place)
  /-- What stands there may only stand where a line begins. -/
  | notAllowed (what : String)
  /-- Something else has to stand there. -/
  | expected (activity : String) (start : Place) (what : String) (found : Option Char)
  | unknownEscape (scalar : Place) (found : Option Char)
  | unendedScalar (scalar : Place)
  | separatorInScalar (scalar : Place)
  | zeroIndentation (scalar : Place)
  | noDocumentStart (found : String)
  | secondVersion
  | foreignVersion
  | secondHandle (handle : String)
  | unknownHandle (node : Place) (handle : String)
  /-- A value has to stand there, in block style or in flow style. -/
  | noContent (inBlock : Bool) (node : Place) (found : String)
  | unendedBlock (what : String) (start : Place) (found : String)
  | unendedFlow (what : String) (closing : Char) (start : Place) (found : String)
  | unknownAlias (name : String)
  | secondAnchor (name : String) (first : Place)
  | secondDocument (first : Place)
  /-- The bytes that so many codes in a tag write are no text. -/
  | badCodes (activity : String) (start : Place) (count : Nat) (finding : String)
  | badKey (mapping : Place)
  | unknownTag (tag : String)
  | wrongNode (wanted found : String)
  | notMergeable (mapping : Place) (wanted found : String)
  /-- The bytes that digits are to write cannot be had. -/
  | badBytes (finding : String)
  /-- Something else has to stand where pairs are listed. -/
  | noPair (activity : String) (list : Place) (wanted found : String)
  /-- A pair has to be the only entry of its mapping. -/
  | manyPairs (activity : String) (list : Place) (count : Nat)
  deriving DecidableEq

namespace Flaw

/-- A character as messages name it; the end of a document counts as a zero character. -/
def nameOf (found : Option Char) : String := Text.quoted (found.getD '\x00').toString

/-- The kind of the error, as reports name it. -/
def kind : Flaw → String
  | noToken _ | noColon _ | notAllowed _ | expected _ _ _ _ | unknownEscape _ _ | unendedScalar _
  | separatorInScalar _ | zeroIndentation _ | badCodes _ _ _ _ => "ScannerError"
  | noDocumentStart _ | secondVersion | foreignVersion | secondHandle _ | unknownHandle _ _
  | noContent _ _ _ | unendedBlock _ _ _ | unendedFlow _ _ _ _ => "ParserError"
  | unknownAlias _ | secondAnchor _ _ | secondDocument _ => "ComposerError"
  | badKey _ | unknownTag _ | wrongNode _ _ | notMergeable _ _ _ | badBytes _ | noPair _ _ _ _
  | manyPairs _ _ _ => "ConstructorError"

/-- What was being read, and where it begins. -/
def activity : Flaw → Option (String × Option Place)
  | noToken _ => some ("while scanning for the next token", none)
  | noColon key => some ("while scanning a simple key", some key)
  | expected activity start _ _ | badCodes activity start _ _ | noPair activity start _ _
  | manyPairs activity start _ => some (activity, some start)
  | unknownEscape scalar _ => some ("while scanning a double-quoted scalar", some scalar)
  | unendedScalar scalar | separatorInScalar scalar =>
    some ("while scanning a quoted scalar", some scalar)
  | zeroIndentation scalar => some ("while scanning a block scalar", some scalar)
  | unknownHandle node _ => some ("while parsing a node", some node)
  | noContent inBlock node _ =>
    some ("while parsing a " ++ (if inBlock then "block" else "flow") ++ " node", some node)
  | unendedBlock what start _ => some ("while parsing a block " ++ what, some start)
  | unendedFlow what _ start _ => some ("while parsing a flow " ++ what, some start)
  | secondAnchor name first =>
    some ("found duplicate anchor " ++ Text.quoted name ++ "; first occurrence", some first)
  | secondDocument first => some ("expected a single document in the stream", some first)
  | badKey mapping | notMergeable mapping _ _ =>
    some ("while constructing a mapping", some mapping)
  | _ => none

/-- What is found to be wrong. -/
def finding : Flaw → String
  | noToken found => "found character " ++ nameOf found ++ " that cannot start any token"
  | noColon _ => "could not find expected ':'"
  | notAllowed what => what ++ " are not allowed here"
  | expected _ _ what found => "expected " ++ what ++ ", but found " ++ nameOf found
  | unknownEscape _ found => "found unknown escape character " ++ nameOf found
  | unendedScalar _ => "found unexpected end of stream"
  | separatorInScalar _ => "found unexpected document separator"
  | zeroIndentation _ => "expected indentation indicator in the range 1-9, but found 0"
  | noDocumentStart found =>
    "expected '<document start>', but found " ++ Text.quoted found
  | secondVersion => "found duplicate YAML directive"
  | foreignVersion => "found incompatible YAML document (version 1.* is required)"
  | secondHandle handle => "duplicate tag handle " ++ Text.quoted handle
  | unknownHandle _ handle => "found undefined tag handle " ++ Text.quoted handle
  | noContent _ _ found => "expected the node content, but found " ++ Text.quoted found
  | unendedBlock _ _ found => "expected <block end>, but found " ++ Text.quoted found
  | unendedFlow _ closing _ found =>
    "expected ',' or '" ++ closing.toString ++ "', but got " ++ Text.quoted found
  | unknownAlias name => "found undefined alias " ++ Text.quoted name
  | secondAnchor _ _ => "second occurrence"
  | secondDocument _ => "but found another document"
  | badKey _ => "found unhashable key"
  | unknownTag tag => "could not determine a constructor for the tag " ++ Text.quoted tag
  | wrongNode wanted found => "expected a " ++ wanted ++ " node, but found " ++ found
  | notMergeable _ wanted found => "expected a " ++ wanted ++ " for merging, but found " ++ found
  | badCodes _ _ _ finding | badBytes finding => finding
  | noPair _ _ wanted found => "expected a " ++ wanted ++ ", but found " ++ found
  | manyPairs _ _ count =>
    "expected a single mapping item, but found " ++ toString count ++ " items"

/-- The message: what was being read and where it begins, unless that is the place itself, and
what is wrong at the place. -/
def message (path : String) (place : Place) (f : Flaw) : String :=
  let before :=
    match f.activity with
    | none => []
    | some (activity, none) => [activity]
    | some (activity, some start) =>
      if start.looksLike place then [activity] else [activity, start.describe path]
  "\n".intercalate (before ++ [f.finding, place.describe path])

/-- How many characters behind the place have been looked at when the flaw is found, none if the
end of the document has been seen. -/
def lookahead? : Flaw → Option Nat
  | expected _ _ _ none | unknownEscape _ none | unendedScalar _ => none
  | noToken _ | notAllowed _ => some 1
  | separatorInScalar _ => some 3
  | badCodes _ _ count _ => some (3 * count)
  | _ => some 0

end Flaw

/-- Why a document has no value. -/
inductive Problem where
  | flawed (flaw : Flaw) (place : Place)
  /-- A character that no document may hold, and how many characters stand before it. -/
  | forbidden (c : Char) (index : Nat)
  /-- A scalar cannot be converted to what it has to be. -/
  | fault (f : Fault)
  /-- A scalar has the form of a number, a day or a character, but there is none such. -/
  | noSuchValue (message : String)
  /-- A text that is to write a day does not. -/
  | noMoment
  /-- What is to write a day is no text. -/
  | notAText
  /-- A code is too large for a character. -/
  | codeTooLarge
  /-- It is of a kind that has no value here. -/
  | unreadable
  deriving DecidableEq

namespace Problem

/-- The kind of the error, as reports name it. -/
def kind : Problem → String
  | flawed flaw _ => flaw.kind
  | forbidden _ _ => "ReaderError"
  | fault f => f.kind
  | noSuchValue _ | unreadable => "ValueError"
  | noMoment => "AttributeError"
  | notAText => "TypeError"
  | codeTooLarge => "OverflowError"

def message (path : String) : Problem → String
  | flawed flaw place => flaw.message path place
  | forbidden c index =>
    "unacceptable character #x" ++ String.ofList (Text.hex 4 c.toNat) ++
      ": special characters are not allowed\n  in \"" ++ path ++ "\", position " ++ toString index
  | fault f => f.message
  | noSuchValue message => message
  | noMoment => "'NoneType' object has no attribute 'groupdict'"
  | notAText => "expected string or bytes-like object, got 'list'"
  | codeTooLarge => "Python int too large to convert to C int"
  | unreadable => "config file " ++ path ++ " cannot be read"

/-- The end of what has been looked at when the problem is found, none if the end of the document
has been seen. -/
def reach? : Problem → Option Nat
  | flawed flaw place => flaw.lookahead?.map (place.index + ·)
  | _ => some 0

end Problem

/-- What reading stops with that finds a flaw at a place. -/
def refuse {α : Type} (flaw : Flaw) (place : Place) : Except Problem α :=
  .error (.flawed flaw place)

end SystemDynamics.Yaml
