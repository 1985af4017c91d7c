import SystemDynamics.Settings.Yaml.Merge
import SystemDynamics.Settings.Yaml.Scalar
/-!
# Values of nodes

What a node stands for is found once, however often it is referred to. A scalar has its value at
once. A list, a mapping or a set is there at once but empty, and waits for its parts; those that
wait are filled in the order in which they came up. So a list or a mapping may be within itself.
When all are filled, the whole is written out as a datum; what stands within itself is written out
there once more, and is named as such within that.
-/

namespace SystemDynamics.Yaml

/-- What a node stands for; the parts are nodes. -/
inductive Value where
  | scalar (d : Datum)
  | list (items : List Nat)
  | mapping (entries : List (Key × Nat))
  | set (members : List Key)
  | pairs (items : List (Nat × Nat))

/-- How far the values of nodes have been found. -/
structure Findings where
  nodes : Graph
  values : Array (Option Value)
  /-- The nodes whose parts are waited for, those that have been filled included. -/
  waiting : Array Nat

/-- Finding values. -/
abbrev Finder := StateT Findings (Except Problem)

namespace Graph

/-- The text that a node writes as a scalar: that of a mapping is its default value. The fuel
bounds the mappings. -/
def textOf (g : Graph) : Nat → Nat → Except Problem String
  | 0, _ => .error .unreadable
  | fuel + 1, id =>
    let n := g.node id
    let wrong := refuse (.wrongNode "scalar" n.body.kind) n.place
    match n.body with
    | .scalar text => .ok text
    | .list _ => wrong
    | .mapping entries =>
      match entries.find? fun e => g.tag e.1 = .default with
      | some (_, value) => textOf g fuel value
      | none => wrong

/-- The datum that a node stands for by a tag of scalars. -/
def scalarOf (g : Graph) (id : Nat) : Except Problem Datum := do
  let n := g.node id
  let text ← g.textOf (g.size + 1) id
  match n.tag, n.body with
  | .moment, .mapping _ => throw .notAText
  | tag, _ => scalar tag text.toList n.place

end Graph

namespace Finder

/-- Keeps what a node stands for. -/
def keep (id : Nat) (v : Value) : Finder Unit :=
  modify fun s => { s with values := s.values.setIfInBounds id (some v) }

/-- Keeps what a node stands for, and has it wait for its parts. -/
def await (id : Nat) (v : Value) : Finder Unit := do
  keep id v
  modify fun s => { s with waiting := s.waiting.push id }

/-- Finds what a node stands for, without the parts of lists and mappings. -/
def find (id : Nat) : Finder Unit := do
  let s ← get
  if (s.values.getD id none).isNone then
    let n := s.nodes.node id
    match n.tag with
    | .list => await id (.list [])
    | .mapping => await id (.mapping [])
    | .set => await id (.set [])
    | .pairs | .orderedMapping => await id (.pairs [])
    | .merge | .default | .other _ => throw (.flawed (.unknownTag n.tag.name) n.place)
    | .null | .truth | .whole | .real | .moment | .text | .bytes =>
      keep id (.scalar (← s.nodes.scalarOf id))

/-- The key that a node of a mapping stands for; lists, mappings and sets are none. -/
def key (mapping : Node) (id : Nat) : Finder Key := do
  find id
  let s ← get
  match s.values.getD id none with
  | some (.scalar d) =>
    match d.key? with
    | some k => return k
    | none => throw (.flawed (.badKey mapping.place) (s.nodes.node id).place)
  | _ => throw (.flawed (.badKey mapping.place) (s.nodes.node id).place)

/-- Whether two nodes are one key. What is no number is one with itself and by its own name, but
not if it is read from other texts. -/
def sameKey (g : Graph) (k l : Nat × Key) : Bool :=
  let isNamed (id : Nat) : Bool :=
    match (g.node id).body with
    | .scalar text => isNotNumber text.toList
    | .list _ | .mapping _ => false
  match k.2, l.2 with
  | .real x, .real y =>
    if x.isNaN && y.isNaN then k.1 == l.1 || (isNamed k.1 && isNamed l.1) else k.2.same l.2
  | _, _ => k.2.same l.2

/-- The entries of a mapping by their keys. A later entry gives its value to the first of its
key. -/
def entries (mapping : Node) (es : List (Nat × Nat)) : Finder (List (Key × Nat)) := do
  let mut found : List ((Nat × Key) × Nat) := []
  for (k, v) in es do
    let key := (k, ← key mapping k)
    find v
    let nodes := (← get).nodes
    found :=
      if found.any (sameKey nodes ·.1 key) then
        found.map fun e => if sameKey nodes e.1 key then (e.1, v) else e
      else found ++ [(key, v)]
  return found.map fun e => (e.1.2, e.2)

/-- The entries of the mapping that a node is. -/
def entriesOf (id : Nat) : Finder (List (Key × Nat)) := do
  let n := (← get).nodes.node id
  match n.body with
  | .mapping _ =>
    let nodes ← (← get).nodes.flatten id
    modify ({ · with nodes })
    entries n (nodes.entries id)
  | .scalar _ | .list _ => throw (.flawed (.wrongNode "mapping" n.body.kind) n.place)

/-- The pairs that a node lists, each a mapping of one entry. -/
def pairsOf (activity : String) (n : Node) : Finder (List (Nat × Nat)) := do
  let noPair (wanted : String) (m : Node) : Finder (List (Nat × Nat)) :=
    throw (.flawed (.noPair activity n.place wanted m.body.kind) m.place)
  match n.body with
  | .list items =>
    items.flatMapM fun item => do
      let m := (← get).nodes.node item
      match m.body with
      | .mapping [(k, v)] =>
        find k
        find v
        return [(k, v)]
      | .mapping es => throw (.flawed (.manyPairs activity n.place es.length) m.place)
      | .scalar _ | .list _ => noPair "mapping of length 1" m
  | .scalar _ | .mapping _ => noPair "sequence" n

/-- Finds what the parts of a node stand for. -/
def fill (id : Nat) : Finder Unit := do
  let n := (← get).nodes.node id
  match n.tag with
  | .list =>
    match n.body with
    | .list items =>
      items.forM find
      keep id (.list items)
    | .scalar _ | .mapping _ => throw (.flawed (.wrongNode "sequence" n.body.kind) n.place)
  | .mapping => keep id (.mapping (← entriesOf id))
  | .set => keep id (.set ((← entriesOf id).map (·.1)))
  | .pairs => keep id (.pairs (← pairsOf "while constructing pairs" n))
  | .orderedMapping => keep id (.pairs (← pairsOf "while constructing an ordered map" n))
  | _ => return

/-- Fills what waits, from the one of that place on. The fuel bounds those that wait. -/
def fillFrom : Nat → Nat → Finder Unit
  | 0, _ => return
  | fuel + 1, place => do
    match (← get).waiting[place]? with
    | some id =>
      fill id
      fillFrom fuel (place + 1)
    | none => return

/-- Finds what a node and all within it stand for. -/
def findAll (root : Nat) : Finder Unit := do
  find root
  fillFrom ((← get).nodes.size + 1) 0

end Finder

/-- What has been written out, for what is not within itself. -/
abbrev Written := StateM (Array (Option Datum))

/-- The datum of a node within others, and whether it names one of them. The fuel bounds how deep
it is. -/
def writeOut (values : Array (Option Value)) : Nat → List Nat → Nat → Written (Datum × Bool)
  | 0, _, _ => return (.null, false)
  | fuel + 1, within, id => do
    if 2 ≤ within.count id then return (.enclosing, true)
    else
      match (← get).getD id none with
      | some d => return (d, false)
      | none =>
        let part := writeOut values fuel (id :: within)
        let (d, isOpen) ←
          match values.getD id none with
          | none => pure (Datum.null, false)
          | some (.scalar d) => pure (d, false)
          | some (.set members) => pure (Datum.set members, false)
          | some (.list items) => do
            let ds ← items.mapM part
            pure (Datum.list (ds.map (·.1)), ds.any (·.2))
          | some (.mapping entries) => do
            let ds ← entries.mapM fun (k, v) => do return (k, ← part v)
            pure (Datum.mapping (ds.map fun e => (e.1, e.2.1)), ds.any (·.2.2))
          | some (.pairs items) => do
            let ds ← items.mapM fun (k, v) => do return (← part k, ← part v)
            pure (Datum.list (ds.map fun e => .list [e.1.1, e.2.1]), ds.any fun e => e.1.2 || e.2.2)
        unless isOpen do modify (·.setIfInBounds id (some d))
        return (d, isOpen)

/-- The datum that a node stands for. -/
def Graph.datum (g : Graph) (root : Nat) : Except Problem Datum := do
  let nothing := Array.replicate g.size none
  let (_, s) ← (Finder.findAll root).run { nodes := g, values := nothing, waiting := #[] }
  let ((d, _), _) := (writeOut s.values (2 * g.size + 1) [] root).run (Array.replicate g.size none)
  return d

end SystemDynamics.Yaml
