import CodeGraph.Graph.Store

/-! # Snapshots

A graph in a form that does not depend on the order in which it was built: its nodes with their
properties and its links, both sorted. -/

namespace CodeGraph

/-- A node with its properties, sorted by their names. -/
structure SnapshotNode where
  label : NodeLabel
  properties : List (String × String)
  deriving BEq, DecidableEq, Repr, Inhabited

/-- A graph in sorted form. -/
structure Snapshot where
  nodes : List SnapshotNode
  links : List Link
  deriving BEq, DecidableEq, Repr, Inhabited

namespace SnapshotNode

/-- A node of a graph with its properties. -/
def ofNode (n : Node) : SnapshotNode :=
  match n.key with
  | .file path => match n.name with
    | some name => ⟨.file, [("name", name), ("path", path)]⟩
    | none => ⟨.file, [("path", path)]⟩
  | .function name file => ⟨.function, [("file", file), ("name", name)]⟩
  | .class name file => ⟨.classType, [("file", file), ("name", name)]⟩

/-- What nodes are sorted by: the kind, then the properties one after the other. -/
def sortKey (n : SnapshotNode) : List String :=
  n.label.rank :: n.properties.flatMap fun p => [p.1, p.2]

end SnapshotNode

/-- The sorted form of a graph. -/
def Store.snapshot (s : Store) : Snapshot where
  nodes := Store.sortedBy SnapshotNode.sortKey (s.nodes.toList.map .ofNode)
  links := Store.sortedBy Link.sortKey s.links

end CodeGraph
