import SystemDynamics.Depth
import SystemDynamics.Expr.Code
import SystemDynamics.Fault
/-!
# Resolving within a limit

The calls of an expression are resolved by calls within each other, and only so many may be opened:
one for each part of the expression, another one where a name or a sign is told apart, and two or
three more on the way to the arguments of a function. Evaluating a part opens no more than resolving
it does.
-/

namespace SystemDynamics

/-- Resolving that may open too many calls. It keeps the slots that it has claimed if it fails. -/
abbrev Limited := ExceptT Fault (StateM Claims)

namespace Limited

/-- Opens calls within each other, and gives the number of those that may still be opened. -/
def enter (opened calls : Nat) : Limited Nat :=
  if calls < opened then throw .nestedTooDeeply else return calls - opened

/-- What opens no calls that stay open. -/
def free {α : Type} (r : Resolution α) : Limited α := ExceptT.mk fun c =>
  match r.run c with
  | (.ok a, c) => (.ok a, c)
  | (.error m, c) => (.error (.badExpression (.misuse m)), c)

def misuse {α : Type} (m : Misuse) : Limited α := free (throw m)

end Limited

namespace Expr

open Limited

mutual

/-- Resolves the calls of an expression, when so many calls may be opened. -/
def resolveWithin (site : Site) : Expr → (calls : Nat) → Limited Code
  | .number x, calls => do
    let _ ← enter 1 calls
    return .number x
  | .text s, calls => do
    let _ ← enter 1 calls
    misuse (.textOutsideTableName s)
  | .name n, calls => do
    let _ ← enter 2 calls
    return .name n
  | .unary op x, calls => do
    let calls ← enter 2 calls
    return .unary op (← resolveWithin site x calls)
  | .binary op l r, calls => do
    let calls ← enter 1 calls
    return .binary op (← resolveWithin site l calls) (← resolveWithin site r calls)
  | .logical op l r, calls => do
    let calls ← enter 1 calls
    return .logical op (← resolveWithin site l calls) (← resolveWithin site r calls)
  | .choice c t e, calls => do
    let calls ← enter 1 calls
    return .choice (← resolveWithin site c calls) (← resolveWithin site t calls)
      (← resolveWithin site e calls)
  | .list _, calls => do
    let _ ← enter 1 calls
    misuse .listOutsideTable
  | .call f arguments, calls => do
    let calls ← enter 2 calls
    match Builtin.ofName? f with
    | none => misuse (.unknownFunction f)
    | some b =>
      match b.misuse? f arguments.length site.inModel with
      | some m => misuse m
      | none => do
        let calls ← enter 1 calls
        match b, arguments with
        | .math g, [x] => return .math g (← resolveWithin site x calls)
        | .power, [x, y] =>
          return .power (← resolveWithin site x calls) (← resolveWithin site y calls)
        | .extremum e, x :: xs =>
          return .extremum e (← resolveWithin site x calls) (← resolveAllWithin site xs calls)
        | .delay kind, [x, y] => do
          let slot ← free (Resolution.claim site.source kind)
          let calls ← enter 1 calls
          return .delay kind slot (← resolveWithin site x calls) (← resolveWithin site y calls)
        | .lookup, [x, table] => do
          let value ← resolveWithin site x calls
          match table with
          | .name n => return .lookup value n
          | .text n => return .lookup value n
          | .list items => do
            let calls ← enter 1 calls
            return .inlineLookup value (← resolvePointsWithin site items calls)
              (site.source ++ ":inline")
          | _ => misuse .notATable
        | .surfaceLookup, [x, y, table] => do
          let x ← resolveWithin site x calls
          let y ← resolveWithin site y calls
          match table.tableName? with
          | some n => return .surfaceLookup x y n
          | none => misuse .notASurfaceName
        | _, _ => misuse (.unknownFunction f)

/-- Resolves the expressions one after the other. -/
def resolveAllWithin (site : Site) : List Expr → (calls : Nat) → Limited (List Code)
  | [], _ => return []
  | x :: xs, calls =>
    return (← resolveWithin site x calls) :: (← resolveAllWithin site xs calls)

/-- Resolves the coordinates of a table written out in the expression. -/
def resolvePointsWithin (site : Site) : List Expr → (calls : Nat) → Limited (List Code)
  | [], _ => return []
  | item :: items, calls =>
    match item with
    | .list [x, y] => do
      let x ← resolveWithin site x calls
      let y ← resolveWithin site y calls
      return x :: y :: (← resolvePointsWithin site items calls)
    | _ => misuse .notAPoint

end

end Expr

end SystemDynamics
