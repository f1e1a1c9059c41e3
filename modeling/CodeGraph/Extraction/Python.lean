import CodeGraph.Extraction.Construct

/-! # Constructs of Python -/

namespace CodeGraph.Extraction.Python

/-- The name to which a lambda is assigned. -/
def assignedName (source : String) (place : Option Place) : Option String :=
  match place with
  | some p => if p.parent.kind == "assignment" then p.boundName source "left" "right" else none
  | none => none

/-- The module or name that an import lists. -/
def importedName (source : String) (t : Tree) : Option String :=
  match t.kind with
  | "dotted_name" => some (t.text source)
  | "aliased_import" => (t.childByField "name").map (·.text source)
  | _ => none

/-- A name inside a module. -/
def submodule (module name : String) : String :=
  if module.endsWith "." then module ++ name else module ++ "." ++ name

/-- What a call calls. -/
def callee (source : String) (function : Option Tree) : Callee :=
  calleeBy "attribute" "attribute" source function

/-- The plain names among the bases of a class. -/
def bases (source : String) (t : Tree) : List String :=
  match t.childByField "superclasses" with
  | some args => (args.namedChildren.filter (·.kind == "identifier")).map (·.text source)
  | none => []

/-- What a node of Python is. -/
def classify (source : String) (place : Option Place) (t : Tree) : Construct :=
  match t.kind with
  | "function_definition" => .function (identifierField source t "name")
  | "lambda" => .function (assignedName source place)
  | "class_definition" => .class (identifierField source t "name") (bases source t)
  | "import_statement" => .imports ((t.childrenByField "name").filterMap (importedName source))
  | "import_from_statement" =>
    match t.childByField "module_name" with
    | none => .other
    | some m =>
      let module := m.text source
      if module.isEmpty then .other
      else
        let names := (t.childrenByField "name").filterMap (importedName source)
        .imports (if names.isEmpty then [module] else names.map (submodule module))
  | "call" => .call (callee source (t.childByField "function")) none
  | _ => .other

end CodeGraph.Extraction.Python
