import CodeGraph.Extraction.Construct

/-! # Constructs of JavaScript and TypeScript -/

namespace CodeGraph.Extraction.JavaScript

/-- The name to which a function or class is bound: by a declaration or by an assignment. -/
def boundName (source : String) (place : Option Place) : Option String :=
  match place with
  | none => none
  | some p =>
    match p.parent.kind with
    | "variable_declarator" => p.boundName source "name" "value"
    | "assignment_expression" => p.boundName source "left" "right"
    | _ => none

/-- Whether a character is a quote. -/
def isQuote (c : Char) : Bool := c == '"' || c == '\''

/-- A text without the quotes at both ends. -/
def trimQuotes (s : String) : String :=
  String.ofList ((s.toList.dropWhile isQuote).reverse.dropWhile isQuote).reverse

/-- The text inside a string literal, if there is any. -/
def stringValue (source : String) (t : Tree) : Option String :=
  if t.kind == "string" then
    let value := trimQuotes (t.text source)
    if value.isEmpty then none else some value
  else none

/-- What a call calls. -/
def callee (source : String) (function : Option Tree) : Callee :=
  calleeBy "member_expression" "property" source function

/-- The plain names in one part of a class heading. -/
def clauseBases (source : String) (clause : Tree) : List String :=
  match clause.kind with
  | "identifier" => [clause.text source]
  | "extends_clause" =>
    ((clause.childrenByField "value").filter (·.kind == "identifier")).map (·.text source)
  | "implements_clause" =>
    clause.namedChildren.filterMap fun t =>
      match t.kind with
      | "type_identifier" => some (t.text source)
      | "generic_type" =>
        match t.childByField "name" with
        | some n => if n.kind == "type_identifier" then some (n.text source) else none
        | none => none
      | _ => none
  | _ => []

/-- The plain names that a class extends or implements. -/
def bases (source : String) (t : Tree) : List String :=
  (t.namedChildren.filter (·.kind == "class_heritage")).flatMap fun h =>
    h.namedChildren.flatMap (clauseBases source)

/-- The module that an import or export names. -/
def importedModule (source : String) (t : Tree) : Option String :=
  match t.childByField "source" with
  | some s => stringValue source s
  | none =>
    if t.kind == "import_statement" then
      match t.namedChildren.find? (·.kind == "import_require_clause") with
      | none => none
      | some clause =>
        match clause.childByField "source" with
        | some s => stringValue source s
        | none => (clause.namedChildren.find? (·.kind == "string")).bind (stringValue source)
    else none

/-- The module that a call of `require` loads. -/
def requiredModule (source : String) (t : Tree) : Option String :=
  match t.childByField "function" with
  | none => none
  | some f =>
    if f.kind == "identifier" && f.text source == "require" then
      match t.childByField "arguments" with
      | none => none
      | some args => args.namedChildren.head?.bind (stringValue source)
    else none

/-- What a node of JavaScript or TypeScript is. -/
def classify (source : String) (place : Option Place) (t : Tree) : Construct :=
  let ownName := identifierField source t "name"
  match t.kind with
  | "function_declaration" | "generator_function_declaration" | "method_definition" =>
    .function ownName
  | "function_expression" | "function" | "generator_function" | "arrow_function" =>
    .function ((boundName source place).or ownName)
  | "function_signature" =>
    match ownName with
    | some n => .signature n
    | none => .other
  | "class_declaration" | "abstract_class_declaration" => .class ownName (bases source t)
  | "class" => .class (ownName.or (boundName source place)) (bases source t)
  | "import_statement" | "export_statement" =>
    match importedModule source t with
    | some s => .imports [s]
    | none => .other
  | "call_expression" =>
    .call (callee source (t.childByField "function")) (requiredModule source t)
  | _ => .other

end CodeGraph.Extraction.JavaScript
