import SystemDynamics.Model.Basic
/-!
# Content from data

Pieces of a model whose numbers arrive as data are converted in the order in which they are
given; the first that is no number is the fault of the whole.
-/

namespace SystemDynamics

/-- The real number that a datum stands for, if there is a datum. -/
def Datum.toReal? : Option Datum → Except Fault (Option Float)
  | none | some .null => .ok none
  | some d => d.toReal.map some

/-- A stock from data: its amount and its bounds. -/
def Stock.ofData (value : Datum) (least greatest : Option Datum) (units : Option String) :
    Except Fault Stock := do
  return ⟨← value.toReal, ← Datum.toReal? least, ← Datum.toReal? greatest, units⟩

namespace Datum

/-- What stands at a place: an item of a list, a character of a text, or what is under that
number in a mapping. -/
def element (d : Datum) (place : Nat) : Except Fault Datum :=
  match d with
  | .list items =>
    match items[place]? with
    | some x => .ok x
    | none => .error .noSuchElement
  | .text s =>
    match s.toList[place]? with
    | some c => .ok (.text (String.ofList [c]))
    | none => .error .noSuchCharacter
  | .mapping entries =>
    match entries.find? (·.1.same (.whole place)) with
    | some e => .ok e.2
    | none => .error (.noSuchPlace place)
  | d => .error (.notIndexed d.typeName)

/-- What a datum is made of: items of a list, characters of a text, keys of a mapping. -/
def members : Datum → Except Fault (List Datum)
  | .list items => .ok items
  | .text s => .ok (s.toList.map fun c => .text (String.ofList [c]))
  | .mapping entries => .ok (entries.map fun e => ofKey e.1)
  | d => .error (.notACollection d.typeName)

/-- A coordinate of a point. -/
def coordinate (point : Datum) (place : Nat) : Except Fault Float := do
  (← point.element place).toReal

/-- Where a number comes from that is none: data have one such number, and a text gives another
one whenever it is read. -/
def origin? : Datum → Option String
  | real x => if x.isNaN then some "" else none
  | _ => none

/-- The points of a curve. -/
def curvePoints (points : Datum) : Except Fault (List (GivenPoint Float)) := do
  (← points.members).mapM fun p => do
    let first ← p.element 0
    let x ← first.toReal
    let y ← p.coordinate 1
    return ⟨x, y, first.origin?⟩

/-- The points of a surface. -/
def surfacePoints (points : Datum) : Except Fault (List (Float × Float × Float)) := do
  (← points.members).mapM fun p => do
    let x ← p.coordinate 0
    let y ← p.coordinate 1
    let z ← p.coordinate 2
    return (x, y, z)

end Datum

namespace Curve

def ofData (name : String) (points : Datum) : Except Fault (Curve Float) :=
  (Datum.curvePoints points).map (ofGiven name)

end Curve

namespace Surface

def ofData (name : String) (points : Datum) : Except Fault (Surface Float) :=
  (Datum.surfacePoints points).map (ofPoints name)

end Surface

end SystemDynamics
