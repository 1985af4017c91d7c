import SystemDynamics.Literal.Numeral
import SystemDynamics.Text.LetterForm
/-!
# Expressions

What a text means before it is known to be a literal: constants and names, put together. Of most
ways to put them together only the kind matters, which reports call by its description.
-/

namespace SystemDynamics.Literal

inductive Constant where
  | nothing
  | truth (value : Bool)
  | ellipsis
  | number (n : Number)
  | text
  | octets
  deriving DecidableEq, Repr

/-- The ways to put expressions together. -/
inductive Kind where
  | tuple
  | set
  | dictionary
  /-- A key and a value of a dictionary. -/
  | entry
  /-- A dictionary whose entries are put into another. -/
  | unpackedEntries
  | call
  /-- What a call is given. -/
  | arguments
  | keyword
  | unpackedKeywords
  | plus
  | minus
  | sum
  | difference
  | operation
  /-- What a loop runs through, and for what. -/
  | loop
  /-- What an operand is compared with: by membership, by anything else. -/
  | membership
  | otherComparison
  | comparison
  | starred
  | member
  | lambda
  | conditional
  | generator
  | setComprehension
  | dictionaryComprehension
  | yielding
  | awaiting
  | assignment
  | formatted
  deriving DecidableEq, Repr

inductive Expression where
  | name (letters : List Char)
  | constant (c : Constant)
  /-- A quoted text as it is written. -/
  | quoted (written : List Char)
  | compound (kind : Kind) (parts : List Expression)
  deriving Repr

/-- How many levels a way to put expressions together adds: those that only gather what another
has as its parts add none. -/
def Kind.levels : Kind → Nat
  | .entry | .unpackedEntries | .arguments | .membership | .otherComparison => 0
  | _ => 1

namespace Expression

/-- A name by its plain letters. -/
def ofName (written : List Char) : Expression := .name (written.flatMap Text.plainLetters)

/-- What reports call an expression. -/
def description : Expression → String
  | .name _ => "name"
  | .constant .nothing => "None"
  | .constant (.truth true) => "True"
  | .constant (.truth false) => "False"
  | .constant .ellipsis => "ellipsis"
  | .constant _ | .quoted _ => "literal"
  | .compound kind _ =>
    match kind with
    | .tuple => "tuple"
    | .set => "set display"
    | .dictionary => "dict literal"
    | .call => "function call"
    | .starred => "starred"
    | .member => "attribute"
    | .lambda => "lambda"
    | .conditional => "conditional expression"
    | .generator => "generator expression"
    | .setComprehension => "set comprehension"
    | .dictionaryComprehension => "dict comprehension"
    | .yielding => "yield expression"
    | .awaiting => "await expression"
    | .assignment => "named expression"
    | .formatted => "f-string expression"
    | .comparison | .membership | .otherComparison => "comparison"
    | _ => "expression"

/-- The words that used to be statements and are calls now. -/
def oldStatements : List String := ["print", "exec"]

/-- The word that an expression is, if it used to be a statement. -/
def oldStatement? : Expression → Option String
  | .name letters => oldStatements.find? fun w => w.toList = letters
  | _ => none

/-- How many arguments are given by position. -/
def positions : Expression → Nat
  | .compound .arguments parts =>
    (parts.filter fun
      | .compound .keyword _ | .compound .unpackedKeywords _ => false
      | _ => true).length
  | _ => 0

/-- Whether arguments have keywords that are unpacked. -/
def unpacksKeywords : Expression → Bool
  | .compound .arguments parts =>
    parts.any fun
      | .compound .unpackedKeywords _ => true
      | _ => false
  | _ => false

mutual

/-- The first part of what a loop runs through that nothing can be assigned to. Before `in`, what
is compared stands for what is assigned to. -/
def unassignable? : Expression → Option Expression
  | .name _ => none
  | .compound .member _ => none
  | .compound .tuple parts => firstUnassignable? parts
  | .compound .starred (part :: _) => part.unassignable?
  | .compound .comparison (left :: .compound .membership _ :: _) => left.unassignable?
  | .compound .comparison _ => none
  | e => some e

def firstUnassignable? : List Expression → Option Expression
  | [] => none
  | part :: parts =>
    match part.unassignable? with
    | some e => some e
    | none => firstUnassignable? parts

end

mutual

/-- How many expressions are within each other. -/
def levels : Expression → Nat
  | .compound kind parts => kind.levels + mostLevels parts
  | _ => 1

def mostLevels : List Expression → Nat
  | [] => 0
  | part :: parts => max part.levels (mostLevels parts)

end

end Expression
end SystemDynamics.Literal
