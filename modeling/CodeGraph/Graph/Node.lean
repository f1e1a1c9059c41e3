import CodeGraph.Text.Quoted

/-! # Nodes and relations of the graph

The graph has three kinds of nodes and five kinds of directed links between them. A node is known by
its key: a file by its path, a function or class by its name and its file. -/

namespace CodeGraph

/-- Kinds of nodes. -/
inductive NodeLabel where
  | file
  | function
  | classType
  deriving BEq, DecidableEq, Hashable, Repr, Inhabited

namespace NodeLabel

/-- The name of a kind of nodes. -/
def name : NodeLabel → String
  | file => "File"
  | function => "Function"
  | classType => "Class"

/-- The kind of nodes of a name. -/
def ofName? : String → Option NodeLabel
  | "File" => some file
  | "Function" => some function
  | "Class" => some classType
  | _ => none

/-- All kinds of nodes, in order. -/
def all : List NodeLabel := [file, function, classType]

/-- The place of a kind among all, as a digit. -/
def rank : NodeLabel → String
  | file => "0"
  | function => "1"
  | classType => "2"

end NodeLabel

/-- Kinds of links. -/
inductive Relation where
  /-- From a function or class to its file. -/
  | definedIn
  /-- From a file to a file. -/
  | imports
  /-- From a function to a function. -/
  | calls
  /-- From a function to a file. -/
  | usedIn
  /-- From a class to a class. -/
  | inherits
  deriving BEq, DecidableEq, Hashable, Repr, Inhabited

namespace Relation

/-- The name of a kind of links. -/
def name : Relation → String
  | definedIn => "DEFINED_IN"
  | imports => "IMPORTS"
  | calls => "CALLS"
  | usedIn => "USED_IN"
  | inherits => "EXTENDS"

/-- The kind of links of a name. -/
def ofName? : String → Option Relation
  | "DEFINED_IN" => some definedIn
  | "IMPORTS" => some imports
  | "CALLS" => some calls
  | "USED_IN" => some usedIn
  | "EXTENDS" => some inherits
  | _ => none

/-- All kinds of links, in order. -/
def all : List Relation := [definedIn, imports, calls, usedIn, inherits]

/-- The place of a kind among all, as a digit. -/
def rank : Relation → String
  | definedIn => "0"
  | imports => "1"
  | calls => "2"
  | usedIn => "3"
  | inherits => "4"

end Relation

/-- What a node is known by. -/
inductive NodeKey where
  | file (path : String)
  | function (name file : String)
  | class (name file : String)
  deriving BEq, DecidableEq, Hashable, Repr, Inhabited

namespace NodeKey

/-- The kind of a node. -/
def label : NodeKey → NodeLabel
  | file _ => .file
  | function _ _ => .function
  | .class _ _ => .classType

/-- The node in words. -/
def display : NodeKey → String
  | file path => "File(" ++ path ++ ")"
  | function name path => "Function(" ++ name ++ ", " ++ Text.quoted path ++ ")"
  | .class name path => "Class(" ++ name ++ ", " ++ Text.quoted path ++ ")"

/-- What nodes are sorted by: first the kind, then the parts of the key. -/
def sortKey : NodeKey → List String
  | file path => [NodeLabel.file.rank, path]
  | function name path => [NodeLabel.function.rank, name, path]
  | .class name path => [NodeLabel.classType.rank, name, path]

end NodeKey

/-- A link between two nodes. -/
structure Link where
  source : NodeKey
  relation : Relation
  target : NodeKey
  deriving BEq, DecidableEq, Hashable, Repr, Inhabited

namespace Link

/-- What links are sorted by: the source, then the kind, then the target. -/
def sortKey (l : Link) : List String :=
  l.source.sortKey ++ l.relation.rank :: l.target.sortKey

end Link

end CodeGraph
