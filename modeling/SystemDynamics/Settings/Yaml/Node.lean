import SystemDynamics.Settings.Yaml.Problem
import SystemDynamics.Settings.Yaml.Tag
/-!
# Nodes

A document holds nodes: scalars, lists and mappings, each with a tag. The nodes of a document are
numbered, and lists and mappings name their parts by number, since a reference is the very node of
its anchor and may even stand within that.
-/

namespace SystemDynamics.Yaml

/-- What a node holds. -/
inductive Body where
  | scalar (text : String)
  | list (items : List Nat)
  | mapping (entries : List (Nat × Nat))

/-- What messages call a node that holds this. -/
def Body.kind : Body → String
  | scalar _ => "scalar"
  | list _ => "sequence"
  | mapping _ => "mapping"

/-- A scalar, a list or a mapping, what it is meant to be, and where it begins. -/
structure Node where
  tag : Tag
  body : Body
  place : Place

/-- The scalar that is not there. -/
def Node.absent (place : Place) : Node := ⟨.null, .scalar "", place⟩

/-- The nodes of a document by their numbers. -/
abbrev Graph := Array Node

namespace Graph

/-- The node of a number. -/
def node (g : Graph) (id : Nat) : Node := g.getD id (.absent ⟨0, 0, 0⟩)

/-- The nodes where the one of that number holds something else. -/
def fill (g : Graph) (id : Nat) (body : Body) : Graph := g.modify id ({ · with body })

/-- The entries of a mapping. -/
def entries (g : Graph) (id : Nat) : List (Nat × Nat) :=
  match (g.node id).body with
  | .mapping entries => entries
  | .scalar _ | .list _ => []

end Graph

end SystemDynamics.Yaml
