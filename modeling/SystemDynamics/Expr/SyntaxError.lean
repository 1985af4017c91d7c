import SystemDynamics.Text.Quoted
/-!
# Errors in the text of an expression

A text can fail to be an expression at a position; an expression can misuse a function or a
literal, which has no position.
-/

namespace SystemDynamics

/-- What is wrong at a position of the text. -/
inductive Complaint where
  | unexpectedCharacter (c : Char)
  | emptyExpression
  | unexpectedToken (found : String)
  | expected (wanted found : String)
  deriving DecidableEq

def Complaint.message : Complaint → String
  | unexpectedCharacter c => "Unexpected character " ++ Text.quoted (String.singleton c)
  | emptyExpression => "Empty expression"
  | unexpectedToken found => "Unexpected token " ++ Text.quoted found
  | expected wanted found => "Expected " ++ wanted ++ ", found " ++ Text.quoted found

/-- What is wrong with an expression whose text can be read. -/
inductive Misuse where
  | textOutsideTableName (value : String)
  | listOutsideTable
  | unknownFunction (name : String)
  | noArguments (function : String)
  | argumentCount (function : String) (wanted got : Nat)
  | needsModel (function : String)
  | notATable
  | notAPoint
  | notASurfaceName
  deriving DecidableEq

def Misuse.message : Misuse → String
  | textOutsideTableName value =>
    "String " ++ Text.quoted value ++ " is only valid as a lookup table name"
  | listOutsideTable => "List literals are only valid as inline lookup tables"
  | unknownFunction name => "Unknown function '" ++ name ++ "'"
  | noArguments function => function ++ " expects at least one argument"
  | argumentCount function wanted got =>
    function ++ " expects " ++ toString wanted ++ " argument(s), got " ++ toString got
  | needsModel function => function ++ " is not available in constant expressions"
  | notATable => "LOOKUP expects a table name or a list of [x, y] pairs"
  | notAPoint => "Inline lookup points must be [x, y] pairs"
  | notASurfaceName => "LOOKUP2D expects a table name"

/-- Why a text is not a usable expression. -/
inductive SyntaxError where
  | located (complaint : Complaint) (text : String) (position : Nat)
  | misuse (m : Misuse)
  deriving DecidableEq

namespace SyntaxError

def message : SyntaxError → String
  | located complaint text position =>
    complaint.message ++ " at position " ++ toString position ++ " in " ++ Text.quoted text
  | misuse m => m.message

/-- The text that the error points into, empty when it has no position. -/
def text : SyntaxError → String
  | located _ text _ => text
  | misuse _ => ""

def position? : SyntaxError → Option Nat
  | located _ _ position => some position
  | misuse _ => none

end SyntaxError

end SystemDynamics
