import SystemDynamics.Settings.Yaml.Node
/-!
# Merging entries

An entry whose key is the merge mark stands for the entries of its value, a mapping or a list of
mappings of which the first win. They are put in front of the mapping's own entries, which win
over them, and have their own merges done before. A mapping may be merged into one that is within
it; since the mark is taken away first, each is followed once, and the number of marks bounds how
deep merges go.
-/

namespace SystemDynamics.Yaml

namespace Graph

/-- The tag of a node. -/
def tag (g : Graph) (id : Nat) : Tag := (g.node id).tag

/-- The number of entries with the merge mark. -/
def merges (g : Graph) : Nat :=
  g.foldl (fun n node =>
    match node.body with
    | .mapping entries => n + (entries.filter fun e => g.tag e.1 = .merge).length
    | .scalar _ | .list _ => n) 0

/-- The value of the first entry of a mapping with the merge mark, and the other entries. -/
def firstMerge? (g : Graph) (id : Nat) : Option (Nat × List (Nat × Nat)) :=
  let entries := g.entries id
  match entries.findIdx? fun e => g.tag e.1 = .merge with
  | some k => (entries[k]?).map fun e => (e.2, entries.eraseIdx k)
  | none => none

/-- The nodes where the keys of a mapping that are the mark of a default are texts. -/
def spellDefaults (g : Graph) (id : Nat) : Graph :=
  (g.entries id).foldl (fun g e =>
    if g.tag e.1 = .default then g.modify e.1 ({ · with tag := .text }) else g) g

/-- The nodes where nothing is left to merge into the mapping of that number, into which the
entries `merged` are merged already. The fuel bounds the merges. -/
def mergeInto (id : Nat) : Nat → List (Nat × Nat) → Graph → Except Problem Graph
  | 0, _, g => .ok g
  | fuel + 1, merged, g =>
    let wrong (wanted : String) (n : Node) : Except Problem Graph :=
      refuse (.notMergeable (g.node id).place wanted n.body.kind) n.place
    match g.firstMerge? id with
    | none =>
      let g := g.spellDefaults id
      .ok (g.fill id (.mapping (merged ++ g.entries id)))
    | some (value, rest) => do
      let g := g.fill id (.mapping rest)
      let n := g.node value
      match n.body with
      | .mapping _ =>
        let g ← mergeInto value fuel [] g
        mergeInto id fuel (merged ++ g.entries value) g
      | .list items =>
        let (g, entries) ← items.foldlM (fun (g, entries) item => do
          let m := g.node item
          match m.body with
          | .mapping _ =>
            let g ← mergeInto item fuel [] g
            return (g, g.entries item ++ entries)
          | .scalar _ | .list _ => return (← wrong "mapping" m, entries)) (g, [])
        mergeInto id fuel (merged ++ entries) g
      | .scalar _ => wrong "mapping or list of mappings" n

/-- The nodes where nothing is left to merge into the mapping of that number. -/
def flatten (g : Graph) (id : Nat) : Except Problem Graph := mergeInto id (g.merges + 1) [] g

end Graph

end SystemDynamics.Yaml
