import CodeGraph.Facts
import CodeGraph.Json.Printer
import CodeGraph.Json.Reader

/-! # Facts as JSON

The facts of a file in the form in which they are printed and read. -/

namespace CodeGraph

namespace FunctionFact

/-- A function as JSON. -/
def toJson (f : FunctionFact) : Json :=
  .object [("name", .string f.name), ("file", .string f.file), ("line", .nat f.line)]

/-- The function that a value gives. -/
def ofJson? (j : Json) : Option FunctionFact := do
  let j ← j.asRecord? ["name", "file", "line"]
  return ⟨← j.stringField? "name", ← j.stringField? "file", ← j.natField? "line"⟩

end FunctionFact

namespace ClassFact

/-- A class as JSON. -/
def toJson (c : ClassFact) : Json :=
  .object [("name", .string c.name), ("file", .string c.file), ("bases", .strings c.bases),
    ("line", .nat c.line)]

/-- The class that a value gives. -/
def ofJson? (j : Json) : Option ClassFact := do
  let j ← j.asRecord? ["name", "file", "bases", "line"]
  return ⟨← j.stringField? "name", ← j.stringField? "file",
    ← j.listField? "bases" Json.asString?, ← j.natField? "line"⟩

end ClassFact

namespace ImportFact

/-- An import as JSON. -/
def toJson (i : ImportFact) : Json :=
  .object [("specifier", .string i.specifier), ("line", .nat i.line)]

/-- The import that a value gives. -/
def ofJson? (j : Json) : Option ImportFact := do
  let j ← j.asRecord? ["specifier", "line"]
  return ⟨← j.stringField? "specifier", ← j.natField? "line"⟩

end ImportFact

namespace CallFact

/-- A call as JSON. -/
def toJson (c : CallFact) : Json :=
  .object [("caller", .optString c.caller), ("callee", .string c.callee), ("line", .nat c.line)]

/-- The call that a value gives. -/
def ofJson? (j : Json) : Option CallFact := do
  let j ← j.asRecord? ["caller", "callee", "line"]
  return ⟨← j.optStringField? "caller", ← j.stringField? "callee", ← j.natField? "line"⟩

end CallFact

namespace FactCounts

/-- Numbers of facts as JSON. -/
def toJson (c : FactCounts) : Json :=
  .object [("functions", .nat c.functions), ("classes", .nat c.classes),
    ("imports", .nat c.imports), ("calls", .nat c.calls)]

/-- The numbers of facts that a value gives. -/
def ofJson? (j : Json) : Option FactCounts := do
  let j ← j.asRecord? ["functions", "classes", "imports", "calls"]
  return ⟨← j.natField? "functions", ← j.natField? "classes", ← j.natField? "imports",
    ← j.natField? "calls"⟩

end FactCounts

namespace FileFacts

/-- The names of the fields of a file's facts, in order. -/
def fieldNames : List String :=
  ["path", "name", "language", "functions", "classes", "imports", "calls"]

/-- The facts of a file as JSON. -/
def toJson (f : FileFacts) : Json :=
  .object [("path", .string f.path), ("name", .string f.name),
    ("language", .string f.language.name),
    ("functions", .array (f.functions.map FunctionFact.toJson)),
    ("classes", .array (f.classes.map ClassFact.toJson)),
    ("imports", .array (f.imports.map ImportFact.toJson)),
    ("calls", .array (f.calls.map CallFact.toJson))]

/-- The facts of a file that a value gives. -/
def ofJson? (j : Json) : Option FileFacts := do
  let j ← j.asRecord? fieldNames
  return {
    path := ← j.stringField? "path"
    name := ← j.stringField? "name"
    language := ← ((j.field? "language").bind Json.asWord?).bind Language.ofName?
    functions := ← j.listField? "functions" FunctionFact.ofJson?
    classes := ← j.listField? "classes" ClassFact.ofJson?
    imports := ← j.listField? "imports" ImportFact.ofJson?
    calls := ← j.listField? "calls" CallFact.ofJson? }

end FileFacts

end CodeGraph
