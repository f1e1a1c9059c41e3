import CodeGraph.Files.Tree
import CodeGraph.Graph.Backend
import CodeGraph.Graph.Json

/-! # Exports

A graph in memory as a file: its snapshot, written to be read by people. -/

namespace CodeGraph.Store

/-- The text of an exported graph. -/
def exportText (s : Store) : String := s.snapshot.toJson.pretty

/-- Writes a graph to the file at a path; the result is the files after it. -/
def exportTo (s : Store) (tree : FileTree) (path : String) :
    Logged (Except GraphError FileTree) :=
  match tree.write path s.exportText.toUTF8 with
  | .error e => return .error (.file e.message)
  | .ok tree => do
    Logged.info s!"Exported {s.nodeCount} nodes and {s.linkCount} relationships to {path}"
    return .ok tree

end CodeGraph.Store
