import CodeGraph.Graph.Batch
import CodeGraph.Graph.Counts
import Std.Data.HashMap

/-! # The graph in memory

Nodes and links are kept in the order in which they came. An index finds the number of a node by its
key, and a set tells which links there are; both are there to be asked quickly, and say nothing that
the nodes and links do not say. -/

namespace CodeGraph

/-- A node. Only a file has a name beside its key. -/
structure Node where
  key : NodeKey
  name : Option String := none
  deriving BEq, DecidableEq, Repr, Inhabited

/-- A link between two nodes, given by their numbers. -/
structure Edge where
  source : Nat
  relation : Relation
  target : Nat
  deriving BEq, DecidableEq, Hashable, Repr, Inhabited

/-- A graph in memory. -/
structure Store where
  nodes : Array Node := #[]
  /-- Numbers of the nodes. -/
  index : Std.HashMap NodeKey Nat := {}
  edges : Array Edge := #[]
  /-- The links that there are. -/
  linked : Std.HashSet Edge := {}
  /-- Number of batches applied. -/
  batches : Nat := 0

instance : Inhabited Store := ⟨{}⟩

namespace Store

/-- A graph without nodes. -/
def empty : Store := {}

/-- The number of the node with a key, which is added if there is none. -/
def mergeNode (s : Store) (key : NodeKey) : Nat × Store :=
  match s.index[key]? with
  | some i => (i, s)
  | none =>
    (s.nodes.size, { s with
      nodes := s.nodes.push { key }, index := s.index.insert key s.nodes.size })

/-- Adds an edge unless it is there. -/
def mergeEdge (s : Store) (e : Edge) : Store :=
  if s.linked.contains e then s
  else { s with edges := s.edges.push e, linked := s.linked.insert e }

/-- Adds a link and its nodes, as far as they are not there. -/
def mergeLink (s : Store) (l : Link) : Store :=
  let (source, s) := s.mergeNode l.source
  let (target, s) := s.mergeNode l.target
  s.mergeEdge ⟨source, l.relation, target⟩

/-- Names a file, which is added if it is not there. -/
def mergeFile (s : Store) (path name : String) : Store :=
  let (i, s) := s.mergeNode (.file path)
  { s with nodes := s.nodes.modify i fun n => { n with name := some name } }

/-- Makes an upsert. -/
def merge (s : Store) (op : Upsert) : Store :=
  match op with
  | .file path name => s.mergeFile path name
  | _ => match op.link? with
    | some l => s.mergeLink l
    | none => s

/-- Makes the upserts of a batch. -/
def apply (s : Store) (b : Batch) : Store :=
  let s := b.ops.foldl merge s
  { s with batches := s.batches + 1 }

/-- Number of nodes. -/
def nodeCount (s : Store) : Nat := s.nodes.size

/-- Number of links. -/
def linkCount (s : Store) : Nat := s.edges.size

/-- Whether a node is there. -/
def containsNode (s : Store) (key : NodeKey) : Bool := s.index.contains key

/-- Whether a link is there. -/
def hasLink (s : Store) (l : Link) : Bool :=
  match s.index[l.source]?, s.index[l.target]? with
  | some a, some b => s.linked.contains ⟨a, l.relation, b⟩
  | _, _ => false

/-- The name of a file. -/
def fileName? (s : Store) (path : String) : Option String :=
  match s.index[NodeKey.file path]? with
  | some i => (s.nodes[i]?).bind (·.name)
  | none => none

/-- The key of a node, by its number. -/
def keyAt (s : Store) (i : Nat) : NodeKey := (s.nodes.getD i default).key

/-- The link of an edge. -/
def linkOf (s : Store) (e : Edge) : Link := ⟨s.keyAt e.source, e.relation, s.keyAt e.target⟩

/-- All links, in the order in which they came. -/
def links (s : Store) : List Link := s.edges.toList.map s.linkOf

/-- Whether a list of texts comes no later than another, the first text that differs deciding. -/
def notAfter (a b : List String) : Bool := !b.lex a

/-- Sorts by a list of texts, the first text first. -/
def sortedBy {α : Type} (key : α → List String) (xs : List α) : List α :=
  xs.mergeSort fun a b => notAfter (key a) (key b)

/-- The links of a kind, sorted. -/
def linksOf (s : Store) (relation : Relation) : List Link :=
  sortedBy Link.sortKey (s.links.filter (·.relation == relation))

/-- Number of nodes of a kind. -/
def labelCount (s : Store) (label : NodeLabel) : Nat :=
  (s.nodes.filter fun n => n.key.label == label).size

/-- Number of links of a kind. -/
def relationCount (s : Store) (relation : Relation) : Nat :=
  (s.edges.filter fun e => e.relation == relation).size

/-- The totals. -/
def counts (s : Store) : GraphCounts :=
  let c := NodeLabel.all.foldl (fun c label => c.setNodes label (s.labelCount label)) {}
  Relation.all.foldl (fun c relation => c.setLinks relation (s.relationCount relation)) c

end Store

end CodeGraph
