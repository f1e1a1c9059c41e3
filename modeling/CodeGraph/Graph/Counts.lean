import CodeGraph.Graph.Node

/-! # Totals of a graph

Numbers of nodes and links of each kind. -/

namespace CodeGraph

/-- Numbers of nodes and links. -/
structure GraphCounts where
  files : Nat := 0
  functions : Nat := 0
  classes : Nat := 0
  definedIn : Nat := 0
  imports : Nat := 0
  calls : Nat := 0
  usedIn : Nat := 0
  inherits : Nat := 0
  deriving BEq, DecidableEq, Repr, Inhabited

namespace GraphCounts

/-- Sets the number of nodes of a kind. -/
def setNodes (c : GraphCounts) (label : NodeLabel) (n : Nat) : GraphCounts :=
  match label with
  | .file => { c with files := n }
  | .function => { c with functions := n }
  | .classType => { c with classes := n }

/-- Sets the number of links of a kind. -/
def setLinks (c : GraphCounts) (relation : Relation) (n : Nat) : GraphCounts :=
  match relation with
  | .definedIn => { c with definedIn := n }
  | .imports => { c with imports := n }
  | .calls => { c with calls := n }
  | .usedIn => { c with usedIn := n }
  | .inherits => { c with inherits := n }

/-- The totals in words. -/
def display (c : GraphCounts) : String :=
  s!"files={c.files}, functions={c.functions}, classes={c.classes}, IMPORTS={c.imports}, "
    ++ s!"CALLS={c.calls}, USED_IN={c.usedIn}, EXTENDS={c.inherits}, DEFINED_IN={c.definedIn}"

end GraphCounts

end CodeGraph
