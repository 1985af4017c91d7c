import SystemDynamics.Expr.Descent
import SystemDynamics.Expr.Evaluation
import SystemDynamics.Expr.Limited
/-!
# Formulas

A formula is an expression with its text and the name under which its failures are reported. It
always has a value, a finite number or, for a condition, a truth value: where its text is no
expression, or evaluating it fails, that is zero or false. A failing evaluation is reported; a
text that is no expression is reported once, when the formula is made. A text that nests too deeply
makes no formula: reading it fails (`compileWithin`), and the programs here read texts in that way.
Reading without a limit (`compile`) is what that comes to where there are calls enough.
-/

namespace SystemDynamics

/-- What a formula is for. -/
inductive Purpose where
  | number | condition
  deriving DecidableEq

structure Formula where
  text : String
  source : String
  purpose : Purpose
  body : Except SyntaxError Code

/-- The value of a formula. -/
inductive Answer where
  | number (x : Float)
  | truth (b : Bool)

/-- The value of a formula that has no other. -/
def Purpose.fallback : Purpose → Answer
  | number => .number 0.0
  | condition => .truth false

namespace Formula

/-- The names of a formula in ascending order, none where the text is no expression. -/
def references (f : Formula) : List String :=
  match f.body with
  | .ok c => c.references
  | .error _ => []

/-- What is wrong with the text. -/
def error? (f : Formula) : Option SyntaxError :=
  match f.body with
  | .ok _ => none
  | .error e => some e

def isOk (f : Formula) : Bool := f.error?.isNone

/-- Reads a text and resolves its calls, however deeply it nests. Slots that were claimed stay
claimed if that fails. -/
def compile (site : Site) (text : String) (slots : List Slot) :
    Except SyntaxError Code × List Slot :=
  match Expr.parse text with
  | .error e => (.error e, slots)
  | .ok x =>
    match (x.resolve site).run ⟨slots, []⟩ with
    | (.ok c, claims) => (.ok c, claims.slots)
    | (.error m, claims) => (.error (.misuse m), claims.slots)

/-- What reading comes to: an error of the text is an answer, and any other failure is none. -/
def verdict (r : Except Fault Code) : Except Fault (Except SyntaxError Code) :=
  match r with
  | .ok c => .ok (.ok c)
  | .error (.badExpression e) => .ok (.error e)
  | .error f => .error f

/-- Reads a text and resolves its calls, when the rules of the parser may open so many calls. -/
def compileWithin (calls : Nat) (site : Site) (text : String) (slots : List Slot) :
    Except Fault (Except SyntaxError Code) × List Slot :=
  match Expr.parseWithin calls text with
  | .error f => (verdict (.error f), slots)
  | .ok x =>
    let (r, claims) := (x.resolveWithin site (calls + Depth.besideRules)).run ⟨slots, []⟩
    (verdict r, claims.slots)

/-- The report of a failing evaluation. -/
def failureText (f : Formula) (e : Fault) : String :=
  e.report ++ " in " ++ Text.quoted f.text

/-- Evaluates code for a purpose. -/
def answer (s : Scope) (c : Code) : Purpose → Evaluation Answer
  | .number => return .number (← c.evalNumber s)
  | .condition => return .truth (← c.evalTruth s)

/-- The value of the formula, its failure reported with the time of the scope. -/
def evaluate (f : Formula) (s : Scope) (m : Memory) : Answer × Memory :=
  match f.body with
  | .error _ => (f.purpose.fallback, m)
  | .ok c =>
    match (answer s c f.purpose).run m with
    | (.ok v, m) => (v, m)
    | (.error e, m) => (f.purpose.fallback, m.report ⟨f.source, f.failureText e, s.time?⟩)

/-- A formula over constants alone; no model is behind it. -/
def overConstants (source text : String) (purpose : Purpose) : Except Fault Formula :=
  match (compileWithin Depth.standard ⟨false, source⟩ text []).1 with
  | .error f => .error f
  | .ok (.error e) => .error (.badExpression e)
  | .ok (.ok c) => .ok ⟨text, source, purpose, .ok c⟩

/-- The value of a formula over constants, and the log entry of its failure, if it fails. -/
def evaluateConstants (f : Formula) (constant? : String → Option Value) :
    Answer × List LogEntry :=
  let (v, m) := f.evaluate (.ofConstants constant?) ⟨[], []⟩
  (v, m.reports.map fun d => ⟨.warning, .expressions, d.source ++ ": " ++ d.message⟩)

/-- How a formula shows in listings. -/
def display (f : Formula) : String :=
  let purpose :=
    match f.purpose with
    | .number => "numeric"
    | .condition => "predicate"
  "CompiledExpression(" ++ Text.quoted f.text ++ ", " ++ purpose ++ ", source=" ++
    Text.quoted f.source ++ ")"

end Formula

/-- The value of a text over constants, once and for all; every failure is the caller's. -/
def constantValue (text : String) (constant? : String → Option Value) : Except Fault Float :=
  match (Formula.compileWithin Depth.standard ⟨false, "const"⟩ text []).1 with
  | .error f => .error f
  | .ok (.error e) => .error (.badExpression e)
  | .ok (.ok c) => ((c.evalNumber (.ofConstants constant?)).run ⟨[], []⟩).1

end SystemDynamics
