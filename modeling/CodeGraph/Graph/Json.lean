import CodeGraph.Graph.Batch
import CodeGraph.Graph.Snapshot
import CodeGraph.Json.Printer
import CodeGraph.Json.Reader

/-! # Graphs as JSON

Keys, upserts, batches, totals and snapshots in the form in which they are printed and read. -/

namespace CodeGraph

namespace NodeKey

/-- A key as JSON. -/
def toJson : NodeKey → Json
  | file path => .object [("label", .string "File"), ("path", .string path)]
  | function name path =>
    .object [("label", .string "Function"), ("name", .string name), ("file", .string path)]
  | .class name path =>
    .object [("label", .string "Class"), ("name", .string name), ("file", .string path)]

/-- The names of the fields of a key, by its kind. -/
def fieldNames? : String → Option (List String)
  | "File" => some ["path"]
  | "Function" | "Class" => some ["name", "file"]
  | _ => none

/-- The key that a value gives. -/
def ofJson? (j : Json) : Option NodeKey := do
  let (kind, j) ← j.asTagged? "label" fieldNames?
  match kind with
  | "File" => return .file (← j.stringField? "path")
  | "Function" => return .function (← j.stringField? "name") (← j.stringField? "file")
  | "Class" => return .class (← j.stringField? "name") (← j.stringField? "file")
  | _ => none

end NodeKey

namespace Relation

/-- The kind of links that a value gives. -/
def ofJson? (j : Json) : Option Relation := j.asWord?.bind ofName?

end Relation

namespace NodeLabel

/-- The kind of nodes that a value gives. -/
def ofJson? (j : Json) : Option NodeLabel := j.asWord?.bind ofName?

end NodeLabel

namespace Upsert

/-- An upsert as JSON. -/
def toJson : Upsert → Json
  | file path name =>
    .object [("op", .string "file"), ("path", .string path), ("name", .string name)]
  | definition kind name path =>
    .object [("op", .string "definition"), ("kind", .string kind.label.name),
      ("name", .string name), ("file", .string path)]
  | inherits child path parent =>
    .object [("op", .string "extends"), ("child", .string child), ("file", .string path),
      ("parent", .string parent)]
  | imports source target =>
    .object [("op", .string "import"), ("from", .string source), ("to", .string target)]
  | call caller callee path =>
    .object [("op", .string "call"), ("caller", .string caller), ("callee", .string callee),
      ("file", .string path)]
  | use callee path =>
    .object [("op", .string "used_in"), ("callee", .string callee), ("file", .string path)]

/-- The names of the fields of an upsert, by its kind. -/
def fieldNames? : String → Option (List String)
  | "file" => some ["path", "name"]
  | "definition" => some ["kind", "name", "file"]
  | "extends" => some ["child", "file", "parent"]
  | "import" => some ["from", "to"]
  | "call" => some ["caller", "callee", "file"]
  | "used_in" => some ["callee", "file"]
  | _ => none

/-- The kind of definition of a word. -/
def definitionKind? : String → Option DefinitionKind
  | "Function" => some .function
  | "Class" => some .classType
  | _ => none

/-- The upsert that a value gives. -/
def ofJson? (j : Json) : Option Upsert := do
  let (kind, j) ← j.asTagged? "op" fieldNames?
  match kind with
  | "file" => return .file (← j.stringField? "path") (← j.stringField? "name")
  | "definition" =>
    let kind ← ((j.field? "kind").bind Json.asWord?).bind definitionKind?
    return .definition kind (← j.stringField? "name") (← j.stringField? "file")
  | "extends" =>
    return .inherits (← j.stringField? "child") (← j.stringField? "file")
      (← j.stringField? "parent")
  | "import" => return .imports (← j.stringField? "from") (← j.stringField? "to")
  | "call" =>
    return .call (← j.stringField? "caller") (← j.stringField? "callee")
      (← j.stringField? "file")
  | "used_in" => return .use (← j.stringField? "callee") (← j.stringField? "file")
  | _ => none

end Upsert

namespace Batch

/-- A batch as JSON; what it remembers is left out. -/
def toJson (b : Batch) : Json :=
  .object [("file", .string b.file), ("ops", .array (b.ops.toList.map Upsert.toJson))]

/-- The batch that a value gives. It remembers none of its upserts. -/
def ofJson? (j : Json) : Option Batch := do
  let j ← j.asRecord? ["file", "ops"]
  return { file := ← j.stringField? "file"
           ops := (← j.listField? "ops" Upsert.ofJson?).toArray }

end Batch

namespace GraphCounts

/-- Totals as JSON. -/
def toJson (c : GraphCounts) : Json :=
  .object [("files", .nat c.files), ("functions", .nat c.functions), ("classes", .nat c.classes),
    ("defined_in", .nat c.definedIn), ("imports", .nat c.imports), ("calls", .nat c.calls),
    ("used_in", .nat c.usedIn), ("extends", .nat c.inherits)]

/-- The totals that a value gives. -/
def ofJson? (j : Json) : Option GraphCounts := do
  let j ← j.asRecord?
    ["files", "functions", "classes", "defined_in", "imports", "calls", "used_in", "extends"]
  return ⟨← j.natField? "files", ← j.natField? "functions", ← j.natField? "classes",
    ← j.natField? "defined_in", ← j.natField? "imports", ← j.natField? "calls",
    ← j.natField? "used_in", ← j.natField? "extends"⟩

end GraphCounts

namespace Link

/-- A link as JSON. -/
def toJson (l : Link) : Json :=
  .object [("from", l.source.toJson), ("type", .string l.relation.name), ("to", l.target.toJson)]

/-- The link that a value gives. -/
def ofJson? (j : Json) : Option Link := do
  let j ← j.asRecord? ["from", "type", "to"]
  return ⟨← (j.field? "from").bind NodeKey.ofJson?, ← (j.field? "type").bind Relation.ofJson?,
    ← (j.field? "to").bind NodeKey.ofJson?⟩

end Link

namespace SnapshotNode

/-- A node as JSON. -/
def toJson (n : SnapshotNode) : Json :=
  .object [("label", .string n.label.name),
    ("properties", .object (n.properties.map fun p => (p.1, .string p.2)))]

/-- Sorted properties with one more, which takes the place of one of its name. -/
def setProperty (p : String × String) : List (String × String) → List (String × String)
  | [] => [p]
  | q :: qs =>
    if p.1 < q.1 then p :: q :: qs
    else if p.1 == q.1 then p :: qs
    else q :: setProperty p qs

/-- The node that a value gives. -/
def ofJson? (j : Json) : Option SnapshotNode := do
  let j ← j.asRecord? ["label", "properties"]
  let properties ← match ← j.field? "properties" with
    | .object fields => fields.mapM fun (k, v) => v.asString?.map fun s => (k, s)
    | _ => none
  return ⟨← (j.field? "label").bind NodeLabel.ofJson?,
    properties.foldl (fun sorted p => setProperty p sorted) []⟩

end SnapshotNode

namespace Snapshot

/-- A snapshot as JSON. -/
def toJson (s : Snapshot) : Json :=
  .object [("nodes", .array (s.nodes.map SnapshotNode.toJson)),
    ("relationships", .array (s.links.map Link.toJson))]

/-- The snapshot that a value gives. -/
def ofJson? (j : Json) : Option Snapshot := do
  let j ← j.asRecord? ["nodes", "relationships"]
  return ⟨← j.listField? "nodes" SnapshotNode.ofJson?, ← j.listField? "relationships" Link.ofJson?⟩

end Snapshot

end CodeGraph
