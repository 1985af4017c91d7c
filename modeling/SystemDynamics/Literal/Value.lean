import SystemDynamics.Literal.Expression
/-!
# Literals among expressions

Constants are literals, and so are tuples, sets and dictionaries of literals, numbers with a sign,
the empty set as a call, and a real number with an imaginary one added or taken away. Sets hold,
and dictionaries have as keys, only what holds no set and no dictionary.
-/

namespace SystemDynamics.Literal

/-- Why an expression is no literal. -/
inductive Objection where
  | notLiteral
  /-- Entries of a dictionary are unpacked, so they have no key. -/
  | noKey
  | noElement (kind : String)
  | tooLarge
  deriving DecidableEq, Repr

def Objection.message : Objection → String
  | .notLiteral => "malformed node or string"
  | .noKey => "malformed node or string: None"
  | .noElement kind => "unhashable type: '" ++ kind ++ "'"
  | .tooLarge => "int too large to convert to float"

/-- The least whole number that is too large to be a real number: half a step above the largest. -/
def Number.firstTooLarge : Nat := (1 <<< 1024) - (1 <<< 970)

namespace Expression

/-- The number that an expression is. -/
def number? : Expression → Except Objection Number
  | .constant (.number n) => .ok n
  | _ => .error .notLiteral

/-- The number that an expression is, with a sign or without. -/
def signed? : Expression → Except Objection Number
  | .compound .plus [e] | .compound .minus [e] => e.number?
  | e => e.number?

/-- Whether two numbers make one with a real and an imaginary part. -/
def complex (first second : Expression) : Except Objection Unit := do
  let one ← first.signed?
  let other ← second.number?
  match one, other with
  | .whole n, .imaginary => if Number.firstTooLarge ≤ n then throw .tooLarge
  | .real, .imaginary => return
  | _, _ => throw .notLiteral

/-- Refuses what cannot be an element or a key. -/
def checkElement : Option String → Except Objection Unit
  | some kind => .error (.noElement kind)
  | none => .ok ()

mutual

/-- Whether an expression is a literal, and which collection in it keeps it from being an element
of a set, if any does. -/
def literal : Expression → Except Objection (Option String)
  | .constant _ => .ok none
  | .compound .tuple parts => literals parts
  | .compound .set parts => do
    elements parts
    return some "set"
  | .compound .dictionary parts => do
    entries parts
    return some "dict"
  | .compound .call [.name letters] =>
    if letters = "set".toList then .ok (some "set") else .error .notLiteral
  | .compound .sum [first, second] | .compound .difference [first, second] => do
    complex first second
    return none
  | e => do
    let _ ← e.signed?
    return none

/-- The first collection in literals that is no element. -/
def literals : List Expression → Except Objection (Option String)
  | [] => .ok none
  | part :: parts => do
    let first ← part.literal
    return first.or (← literals parts)

def elements : List Expression → Except Objection Unit
  | [] => .ok ()
  | part :: parts => do
    checkElement (← part.literal)
    elements parts

def entries : List Expression → Except Objection Unit
  | [] => .ok ()
  | .compound .entry [key, value] :: parts => do
    let kept ← key.literal
    let _ ← value.literal
    checkElement kept
    entries parts
  | _ :: _ => .error .noKey

end

end Expression
end SystemDynamics.Literal
