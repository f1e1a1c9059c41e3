import CodeGraph.Tree.Basic

/-! # Constructs

The constructs of a source text that give rise to facts, told apart from all others. Each language
says which of its nodes are which. -/

namespace CodeGraph.Extraction

/-- What is called. -/
inductive Callee where
  /-- A plain name. -/
  | identifier (name : String)
  /-- The last name of a chain. -/
  | member (name : String)
  /-- Something without a name. -/
  | computed
  deriving BEq, DecidableEq, Repr, Inhabited

/-- The name of what is called, if it has one. -/
def Callee.name? : Callee → Option String
  | identifier n | member n => some n
  | computed => none

/-- What a node is. -/
inductive Construct where
  /-- A function with a body. -/
  | function (name : Option String)
  /-- A function declared without a body. -/
  | signature (name : String)
  | class (name : Option String) (bases : List String)
  | imports (specifiers : List String)
  /-- A call, and the module that it loads, if it is a call that loads one. -/
  | call (callee : Callee) (loaded : Option String)
  | other
  deriving BEq, DecidableEq, Repr, Inhabited

/-- The place of a node: its parent and its number among the children. -/
structure Place where
  parent : Tree
  index : Nat
  deriving Inhabited

/-- Kinds of nodes that are plain names. -/
def isIdentifierKind (kind : String) : Bool :=
  kind == "identifier" || kind == "property_identifier" || kind == "private_property_identifier"
    || kind == "type_identifier"

/-- The text of the child with a role, if it is a plain name that is not empty. -/
def identifierField (source : String) (t : Tree) (field : String) : Option String :=
  match t.childByField field with
  | some c =>
    if isIdentifierKind c.kind then
      let name := c.text source
      if name.isEmpty then none else some name
    else none
  | none => none

/-- What a call calls: a plain name, or the name with a role in a node of some kind. -/
def calleeBy (kind field source : String) (function : Option Tree) : Callee :=
  match function with
  | none => .computed
  | some f =>
    if f.kind = "identifier" then .identifier (f.text source)
    else if f.kind = kind then ((identifierField source f field).map .member).getD .computed
    else .computed

/-- Whether the place is that of the first child with a role. -/
def Place.isField (p : Place) (field : String) : Bool :=
  p.parent.children.findIdx? (·.field == some field) == some p.index

/-- The name to which the node at a place is bound, where the parent binds its `value` child to its
`target` child and the target is a plain name. -/
def Place.boundName (source : String) (p : Place) (target value : String) : Option String :=
  if p.isField value then
    match p.parent.childByField target with
    | some t => if t.kind == "identifier" then some (t.text source) else none
    | none => none
  else none

end CodeGraph.Extraction
