import CodeGraph.Graph.Node

/-! # Upserts

The smallest changes of the graph. An upsert says that some nodes exist, and perhaps a link between
them; to make it twice is to make it once. -/

namespace CodeGraph

/-- What a definition defines. -/
inductive DefinitionKind where
  | function
  | classType
  deriving BEq, DecidableEq, Hashable, Repr, Inhabited

namespace DefinitionKind

/-- The kind of nodes of a definition. -/
def label : DefinitionKind → NodeLabel
  | function => .function
  | classType => .classType

/-- The node of a definition. -/
def node (kind : DefinitionKind) (name file : String) : NodeKey :=
  match kind with
  | function => .function name file
  | classType => .class name file

end DefinitionKind

/-- A change of the graph that can be made any number of times. -/
inductive Upsert where
  /-- A file exists and has a name. -/
  | file (path name : String)
  /-- A function or class is defined in a file. -/
  | definition (kind : DefinitionKind) (name file : String)
  /-- A class inherits from a class of which only the name is known. -/
  | inherits (child file parent : String)
  /-- A file imports a file. -/
  | imports (source target : String)
  /-- A function calls a function; both belong to the file of the call. -/
  | call (caller callee file : String)
  /-- A function is used in a file. -/
  | use (callee file : String)
  deriving BEq, DecidableEq, Hashable, Repr, Inhabited

namespace Upsert

/-- The file of a class of which only the name is known. -/
def unknownFile : String := ""

/-- The nodes that an upsert says to exist, the source of a link before its target. -/
def nodes : Upsert → List NodeKey
  | file path _ => [.file path]
  | definition kind name path => [kind.node name path, .file path]
  | inherits child path parent => [.class child path, .class parent unknownFile]
  | imports source target => [.file source, .file target]
  | call caller callee path => [.function caller path, .function callee path]
  | use callee path => [.function callee path, .file path]

/-- The kind of link of an upsert. -/
def relation? : Upsert → Option Relation
  | file _ _ => none
  | definition _ _ _ => some .definedIn
  | inherits _ _ _ => some .inherits
  | imports _ _ => some .imports
  | call _ _ _ => some .calls
  | use _ _ => some .usedIn

/-- The link of an upsert. -/
def link? (u : Upsert) : Option Link :=
  match u.relation?, u.nodes with
  | some relation, source :: target :: _ => some ⟨source, relation, target⟩
  | _, _ => none

end Upsert

end CodeGraph
