import SystemDynamics.Depth
import SystemDynamics.Literal.Reading
import SystemDynamics.Literal.Value
import SystemDynamics.Text.Alphanumeric
import SystemDynamics.Text.Blank
/-!
# Parameters of handlers

A tag may name a handler and give it parameters in parentheses, or give parameters alone. They
have to be literals: numbers, texts, and groups of these. Only so many may be within each other
(`Depth.levels`).
-/

namespace SystemDynamics.Handler

open SystemDynamics.Literal

/-- Why parameters cannot be read. -/
inductive Failure where
  | flaw (f : Flaw)
  | tooDeep
  | tooManyLevels
  | objection (o : Objection)
  deriving DecidableEq

/-- The words a failure is reported in; too much depth has none. -/
def Failure.message : Failure → String
  | .flaw f => f.message
  | .tooDeep => ""
  | .tooManyLevels => "maximum recursion depth exceeded during ast construction"
  | .objection o => o.message

/-- Reads an expression in braces, which is put in parentheses and may have expressions in braces
of its own. At most so many are within each other. -/
def embedded? : (nested : Nat) → List Char → Option Literal.Failure
  | 0, _ => none
  | nested + 1, cs =>
    let report (f : Flaw) : Literal.Failure := .flaw (.inTemplate f)
    match Literal.read report (Quoted.join report (embedded? nested)) .embedded
      ('(' :: cs ++ [')', '\n']) with
    | .ok _ => none
    | .error f => some f

/-- The expression that a text is. -/
def expression (cs : List Char) : Except Literal.Failure Expression :=
  if cs.contains '\x00' then .error (.flaw .nullCharacter)
  else Literal.read .flaw (Quoted.join .flaw (embedded? cs.length)) .whole cs

/-- What is wrong with parameters, if anything. -/
def failure? (parameters : List Char) : Option Failure :=
  match expression parameters with
  | .error (.flaw f) => some (.flaw f)
  | .error .tooDeep => some .tooDeep
  | .ok e =>
    if Depth.levels < e.levels then some .tooManyLevels
    else match e.literal with
    | .error o => some (.objection o)
    | .ok _ => none

/-- The part of the parameters that has to be a literal: what is in the parentheses behind a
handler, nothing if it has none, all if no handler is named. -/
def literalPart (parameters : List Char) : List Char :=
  let name := parameters.takeWhile fun c => Text.isWordChar c || c = '.'
  match parameters.drop name.length with
  | [] => ['(', ')']
  | rest => if rest.head? = some '(' ∧ rest.getLast? = some ')' then rest else parameters

/-- The part of the parameters that cannot be read and why, if there is one. -/
def problem? (parameters : List Char) : Option (List Char × Failure) :=
  let part := literalPart (Text.strip parameters)
  (failure? part).map fun f => (part, f)

end SystemDynamics.Handler
