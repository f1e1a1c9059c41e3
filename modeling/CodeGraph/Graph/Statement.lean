import CodeGraph.Graph.Upsert
import CodeGraph.Json.Printer

/-! # Database statements

The requests that a graph database is sent, in its query language. A statement is a list of clauses;
the texts of an upsert are never part of it but are passed beside it as parameters. -/

namespace CodeGraph

/-- A clause. Variables, properties and parameters are given by their names. -/
inductive Clause where
  /-- Finds or makes the node of a kind with properties equal to parameters, and names it. -/
  | mergeNode (var : String) (label : NodeLabel) (properties : List (String × String))
  /-- Finds or makes a link between two named nodes. -/
  | mergeLink (source : String) (relation : Relation) (target : String)
  /-- Sets a property of a named node to a parameter. -/
  | assign (var property parameter : String)
  /-- Counts the nodes of a kind. -/
  | countNodes (label : NodeLabel)
  /-- Counts the links of a kind. -/
  | countLinks (relation : Relation)
  /-- Answers with the number one. -/
  | one
  deriving BEq, DecidableEq, Repr, Inhabited

/-- A statement with its parameters. -/
structure Statement where
  clauses : List Clause
  parameters : List (String × String) := []
  deriving BEq, DecidableEq, Repr, Inhabited

namespace Clause

/-- The text of a clause. -/
def text : Clause → String
  | mergeNode var label properties =>
    "MERGE (" ++ var ++ ":" ++ label.name ++ " \x7b"
      ++ ", ".intercalate (properties.map fun p => p.1 ++ ": $" ++ p.2) ++ "\x7d)"
  | mergeLink source relation target =>
    "MERGE (" ++ source ++ ")-[:" ++ relation.name ++ "]->(" ++ target ++ ")"
  | assign var property parameter => "SET " ++ var ++ "." ++ property ++ " = $" ++ parameter
  | countNodes label => "MATCH (n:" ++ label.name ++ ") RETURN count(n)"
  | countLinks relation => "MATCH ()-[r:" ++ relation.name ++ "]->() RETURN count(r)"
  | one => "RETURN 1"

end Clause

namespace Statement

/-- The text of a statement. -/
def text (s : Statement) : String := " ".intercalate (s.clauses.map Clause.text)

/-- The statement and its parameters as they are sent. -/
def toJson (s : Statement) : Json :=
  .object [("statement", .string s.text),
    ("parameters", .object (s.parameters.map fun p => (p.1, .string p.2)))]

/-- The statement of an upsert. -/
def ofUpsert : Upsert → Statement
  | .file path name =>
    { clauses := [.mergeNode "f" .file [("path", "path")], .assign "f" "name" "name"]
      parameters := [("path", path), ("name", name)] }
  | .definition kind name file =>
    { clauses := [.mergeNode "n" kind.label [("name", "name"), ("file", "file")],
        .mergeNode "f" .file [("path", "file")], .mergeLink "n" .definedIn "f"]
      parameters := [("name", name), ("file", file)] }
  | .inherits child file parent =>
    { clauses := [.mergeNode "c" .classType [("name", "child"), ("file", "file")],
        .mergeNode "p" .classType [("name", "parent"), ("file", "parent_file")],
        .mergeLink "c" .inherits "p"]
      parameters := [("child", child), ("file", file), ("parent", parent),
        ("parent_file", Upsert.unknownFile)] }
  | .imports source target =>
    { clauses := [.mergeNode "a" .file [("path", "from")], .mergeNode "b" .file [("path", "to")],
        .mergeLink "a" .imports "b"]
      parameters := [("from", source), ("to", target)] }
  | .call caller callee file =>
    { clauses := [.mergeNode "a" .function [("name", "caller"), ("file", "file")],
        .mergeNode "b" .function [("name", "callee"), ("file", "file")],
        .mergeLink "a" .calls "b"]
      parameters := [("caller", caller), ("callee", callee), ("file", file)] }
  | .use callee file =>
    { clauses := [.mergeNode "fn" .function [("name", "callee"), ("file", "file")],
        .mergeNode "f" .file [("path", "file")], .mergeLink "fn" .usedIn "f"]
      parameters := [("callee", callee), ("file", file)] }

/-- The statement that only asks for an answer. -/
def probe : Statement := { clauses := [.one] }

/-- The statements that ask for the totals: of each kind of nodes, then of each kind of links. -/
def counts : List Statement :=
  NodeLabel.all.map (fun label => { clauses := [.countNodes label] })
    ++ Relation.all.map fun relation => { clauses := [.countLinks relation] }

end Statement

end CodeGraph
