import CodeGraph.Languages.JavaScript.Grammar

/-! # TypeScript

The grammar of TypeScript, given by what it changes in and adds to the grammar of JavaScript. There
are two forms of the language: one with type assertions in angle brackets, and one with markup in
their place. -/

namespace CodeGraph.Languages.TypeScript

open CodeGraph.Grammar Rule
open CodeGraph.Languages.JavaScript (level levelLeft levelRight anyName body decorators bindingTarget)

/-- The forms of the language. -/
inductive Form where
  /-- With type assertions in angle brackets. -/
  | plain
  /-- With markup. -/
  | markup
  deriving BEq

/-- A rule under a field name, which may be missing. -/
def optField (name rule : String) : Rule := field name (opt (.ref rule))

/-- The type parameters of a declaration. -/
def typeParameters : Rule := optField "type_parameters" "type_parameters"

/-- The type after a name. -/
def annotation : Rule := optField "type" "type_annotation"

/-- Words that are ordinary names in most places. -/
def reserved : List String :=
  ["declare", "namespace", "type", "public", "private", "protected", "override", "readonly",
   "module", "any", "number", "boolean", "string", "symbol", "export", "object", "new"]

/-- What the class, method and property rules have in front of a name. -/
def modifiers : List Rule :=
  [opt (.ref "accessibility_modifier"), opt (str "static"), opt (.ref "override_modifier"),
   opt (str "readonly")]

/-- The kinds of accessors and generators. -/
def accessorMark : Rule := opt (.choice [str "get", str "set", str "*"])

/-- A type that can be written without a type operator in front of a member or a call. -/
def queried (kinds : List (String × String)) : List Rule :=
  kinds.map fun (kind, rule) => .named kind (.ref rule)

/-- Property names in type queries. -/
def queriedProperty : Rule :=
  field "property" (.choice [
    .ref "private_property_identifier", .named "property_identifier" (.ref "identifier")])

/-- Objects of which a type query may take a member. -/
def queriedObject : Rule :=
  field "object" (.choice ([.ref "identifier", .ref "this"] ++ queried [
    ("subscript_expression", "_type_query_subscript_expression"),
    ("member_expression", "_type_query_member_expression"),
    ("call_expression", "_type_query_call_expression")]))

/-- Functions that a type query may apply. -/
def queriedFunction : Rule :=
  field "function" (.choice ([.ref "import", .ref "identifier"] ++ queried [
    ("member_expression", "_type_query_member_expression"),
    ("subscript_expression", "_type_query_subscript_expression")]))

/-- The rules of JavaScript that differ here, from their bodies there. -/
def changes (form : Form) : List (String × (Rule → Rule)) := [
  ("catch_clause", fun _ => .seq [
    str "catch",
    opt (.seq [
      str "(", field "parameter" bindingTarget, opt (field "type" (.ref "type_annotation")),
      str ")"]),
    body]),
  ("call_expression", fun _ => .choice [
    level "call" (.seq [
      field "function" (.choice [.ref "expression", .ref "import"]),
      optField "type_arguments" "type_arguments",
      field "arguments" (.ref "arguments")]),
    level "template_call" (.seq [
      field "function" (.choice [.ref "primary_expression", .ref "new_expression"]),
      field "arguments" (.ref "template_string")]),
    level "member" (.seq [
      field "function" (.ref "primary_expression"),
      str "?.",
      optField "type_arguments" "type_arguments",
      field "arguments" (.ref "arguments")])]),
  ("new_expression", fun _ => levelRight "new" (.seq [
    str "new",
    field "constructor" (.choice [.ref "primary_expression", .ref "new_expression"]),
    optField "type_arguments" "type_arguments",
    optField "arguments" "arguments"])),
  ("assignment_expression", fun _ => levelRight "assign" (.seq [
    opt (str "using"),
    field "left" (.choice [.ref "parenthesized_expression", .ref "_lhs_expression"]),
    str "=",
    field "right" (.ref "expression")])),
  ("_augmented_assignment_lhs", fun old => .choice [old, .ref "non_null_expression"]),
  ("_lhs_expression", fun old => .choice [old, .ref "non_null_expression"]),
  ("primary_expression", fun old => .choice [old, .ref "non_null_expression"]),
  ("expression", fun old =>
    let own := ["as_expression", "satisfies_expression", "instantiation_expression",
      "internal_module"].map Rule.ref
    let members := match old with
      | .choice rs => rs
      | r => [r]
    match form with
    | .plain => .choice (own ++ [.ref "type_assertion"] ++ members.filter (· != .ref "_jsx_element"))
    | .markup => .choice (own ++ members)),
  ("jsx_opening_element", fun _ =>
    .weight (-1) (.seq [.ref "_jsx_start_opening_element", str ">"])),
  ("jsx_self_closing_element", fun _ =>
    .weight (-1) (.seq [.ref "_jsx_start_opening_element", str "/>"])),
  ("export_specifier", fun old => .seq [opt (.choice [str "type", str "typeof"]), old]),
  ("import_specifier", fun _ => .seq [
    opt (.choice [str "type", str "typeof"]),
    .choice [
      field "name" (.ref "_import_identifier"),
      .seq [
        field "name" (.choice [.ref "_module_export_name", .named "identifier" (str "default")]),
        str "as",
        field "alias" (.ref "_import_identifier")]]]),
  ("import_clause", fun _ => .choice [
    .ref "namespace_import",
    .ref "named_imports",
    .seq [.ref "_import_identifier",
      opt (.seq [str ",", .choice [.ref "namespace_import", .ref "named_imports"]])]]),
  ("import_statement", fun _ => .seq [
    str "import",
    opt (.choice [str "type", str "typeof"]),
    .choice [
      .seq [.ref "import_clause", .ref "_from_clause"],
      .ref "import_require_clause",
      field "source" (.ref "string")],
    opt (.ref "import_attribute"),
    .ref "_semicolon"]),
  ("import_attribute", fun _ => .seq [.choice [str "with", str "assert"], .ref "object"]),
  ("export_statement", fun old => .choice [
    old,
    .seq [str "export", str "type", .ref "export_clause", opt (.ref "_from_clause"),
      .ref "_semicolon"],
    .seq [str "export", str "=", .ref "expression", .ref "_semicolon"],
    .seq [str "export", str "as", str "namespace", .ref "identifier", .ref "_semicolon"]]),
  ("variable_declarator", fun _ => .choice [
    .seq [field "name" bindingTarget, annotation, opt (.ref "_initializer")],
    level "declare" (.seq [
      field "name" (.ref "identifier"), str "!", field "type" (.ref "type_annotation")])]),
  ("parenthesized_expression", fun _ => .seq [
    str "(",
    .choice [.seq [.ref "expression", annotation], .ref "sequence_expression"],
    str ")"]),
  ("_formal_parameter", fun _ => .choice [.ref "required_parameter", .ref "optional_parameter"]),
  ("decorator", fun _ => .seq [
    str "@",
    .choice [
      .ref "identifier",
      .named "member_expression" (.ref "decorator_member_expression"),
      .named "call_expression" (.ref "decorator_call_expression"),
      .named "parenthesized_expression" (.ref "decorator_parenthesized_expression")]]),
  ("decorator_call_expression", fun _ => level "call" (.seq [
    field "function" (.choice [
      .ref "identifier", .named "member_expression" (.ref "decorator_member_expression")]),
    opt (field "type_arguments" (.ref "type_arguments")),
    field "arguments" (.ref "arguments")])),
  ("class_body", fun _ => .seq [
    str "\x7b",
    many (.choice [
      .seq [decorators, .ref "method_definition", opt (.ref "_semicolon")],
      .seq [.ref "method_signature",
        .choice [.ref "_function_signature_automatic_semicolon", str ","]],
      .ref "class_static_block",
      .seq [
        .choice [
          .ref "abstract_method_signature", .ref "index_signature", .ref "method_signature",
          .ref "public_field_definition"],
        .choice [.ref "_semicolon", str ","]],
      str ";"]),
    str "\x7d"]),
  ("method_definition", fun _ => left (.seq (modifiers ++ [
    opt (str "async"), accessorMark, field "name" (.ref "_property_name"), opt (str "?"),
    .ref "_call_signature", body]))),
  ("declaration", fun old => .choice [
    old, .ref "function_signature", .ref "abstract_class_declaration", .ref "module",
    level "declare" (.ref "internal_module"), .ref "type_alias_declaration",
    .ref "enum_declaration", .ref "interface_declaration", .ref "import_alias",
    .ref "ambient_declaration"]),
  ("class_heritage", fun _ => .choice [
    .seq [.ref "extends_clause", opt (.ref "implements_clause")],
    .ref "implements_clause"]),
  ("class", fun _ => level "literal" (.seq [
    decorators, str "class", optField "name" "_type_identifier", typeParameters,
    opt (.ref "class_heritage"), field "body" (.ref "class_body")])),
  ("class_declaration", fun _ => levelLeft "declare" (.seq [
    decorators, str "class", field "name" (.ref "_type_identifier"), typeParameters,
    opt (.ref "class_heritage"), field "body" (.ref "class_body"),
    opt (.ref "_automatic_semicolon")])),
  ("_call_signature", fun _ => .seq [
    typeParameters,
    field "parameters" (.ref "formal_parameters"),
    field "return_type" (opt (.choice [
      .ref "type_annotation", .ref "asserts_annotation", .ref "type_predicate_annotation"]))]),
  ("_reserved_identifier", fun old => .choice (reserved.map str ++ [old]))]

/-- Declarations and statements. -/
def declarationRules : List (String × Rule) := [
  ("public_field_definition", .seq [
    decorators,
    opt (.choice [
      .seq [str "declare", opt (.ref "accessibility_modifier")],
      .seq [.ref "accessibility_modifier", opt (str "declare")]]),
    .choice [
      .seq [opt (str "static"), opt (.ref "override_modifier"), opt (str "readonly")],
      .seq [opt (str "abstract"), opt (str "readonly")],
      .seq [opt (str "readonly"), opt (str "abstract")],
      opt (str "accessor")],
    field "name" (.ref "_property_name"),
    opt (.choice [str "?", str "!"]),
    annotation,
    opt (.ref "_initializer")]),
  ("_jsx_start_opening_element", .seq [
    str "<",
    opt (.seq [
      .choice [
        field "name" (.choice [.ref "_jsx_identifier", .ref "jsx_namespace_name"]),
        .seq [
          field "name" (.choice [
            .ref "identifier", .named "member_expression" (.ref "nested_identifier")]),
          optField "type_arguments" "type_arguments"]],
      many (field "attribute" (.ref "_jsx_attribute"))])]),
  ("_import_identifier", .choice [.ref "identifier", .named "identifier" (str "type")]),
  ("non_null_expression", levelLeft "unary" (.seq [.ref "expression", str "!"])),
  ("method_signature", .seq (modifiers ++ [
    opt (str "async"), accessorMark, field "name" (.ref "_property_name"), opt (str "?"),
    .ref "_call_signature"])),
  ("abstract_method_signature", .seq [
    opt (.ref "accessibility_modifier"), str "abstract", opt (.ref "override_modifier"),
    accessorMark, field "name" (.ref "_property_name"), opt (str "?"), .ref "_call_signature"]),
  ("function_signature", .seq [
    opt (str "async"), str "function", field "name" (.ref "identifier"), .ref "_call_signature",
    .choice [.ref "_semicolon", .ref "_function_signature_automatic_semicolon"]]),
  ("decorator_parenthesized_expression", .seq [
    str "(",
    .choice [
      .ref "identifier",
      .named "member_expression" (.ref "decorator_member_expression"),
      .named "call_expression" (.ref "decorator_call_expression")],
    str ")"]),
  ("type_assertion", levelLeft "unary" (.seq [.ref "type_arguments", .ref "expression"])),
  ("as_expression", levelLeft "binary" (.seq [
    .ref "expression", str "as", .choice [str "const", .ref "type"]])),
  ("satisfies_expression", levelLeft "binary" (.seq [
    .ref "expression", str "satisfies", .ref "type"])),
  ("instantiation_expression", level "instantiation" (.seq [
    .ref "expression", field "type_arguments" (.ref "type_arguments")])),
  ("import_require_clause", .seq [
    .ref "identifier", str "=", str "require", str "(", field "source" (.ref "string"), str ")"]),
  ("extends_clause", .seq [str "extends", commaSep1 (.ref "_extends_clause_single")]),
  ("_extends_clause_single", level "extends" (.seq [
    field "value" (.ref "expression"), optField "type_arguments" "type_arguments"])),
  ("implements_clause", .seq [str "implements", commaSep1 (.ref "type")]),
  ("ambient_declaration", .seq [
    str "declare",
    .choice [
      .ref "declaration",
      .seq [str "global", .ref "statement_block"],
      .seq [str "module", str ".", .named "property_identifier" (.ref "identifier"), str ":",
        .ref "type", .ref "_semicolon"]]]),
  ("abstract_class_declaration", level "declare" (.seq [
    decorators, str "abstract", str "class", field "name" (.ref "_type_identifier"),
    typeParameters, opt (.ref "class_heritage"), field "body" (.ref "class_body")])),
  ("module", .seq [str "module", .ref "_module"]),
  ("internal_module", .seq [str "namespace", .ref "_module"]),
  ("_module", right (.seq [
    field "name" (.choice [.ref "string", .ref "identifier", .ref "nested_identifier"]),
    optField "body" "statement_block"])),
  ("import_alias", .seq [
    str "import", .ref "identifier", str "=",
    .choice [.ref "identifier", .ref "nested_identifier"], .ref "_semicolon"]),
  ("nested_type_identifier", level "member" (.seq [
    field "module" (.choice [.ref "identifier", .ref "nested_identifier"]), str ".",
    field "name" (.ref "_type_identifier")])),
  ("interface_declaration", .seq [
    str "interface", field "name" (.ref "_type_identifier"), typeParameters,
    opt (.ref "extends_type_clause"),
    field "body" (.named "interface_body" (.ref "object_type"))]),
  ("extends_type_clause", .seq [
    str "extends",
    commaSep1 (field "type" (.choice [
      .ref "_type_identifier", .ref "nested_type_identifier", .ref "generic_type"]))]),
  ("enum_declaration", .seq [
    opt (str "const"), str "enum", field "name" (.ref "identifier"),
    field "body" (.ref "enum_body")]),
  ("enum_body", .seq [
    str "\x7b",
    opt (.seq [
      commaSep1 (.choice [field "name" (.ref "_property_name"), .ref "enum_assignment"]),
      opt (str ",")]),
    str "\x7d"]),
  ("enum_assignment", .seq [field "name" (.ref "_property_name"), .ref "_initializer"]),
  ("type_alias_declaration", .seq [
    str "type", field "name" (.ref "_type_identifier"), typeParameters, str "=",
    field "value" (.ref "type"), .ref "_semicolon"]),
  ("accessibility_modifier", .choice [str "public", str "private", str "protected"]),
  ("override_modifier", str "override"),
  ("required_parameter", .seq [.ref "_parameter_name", annotation, opt (.ref "_initializer")]),
  ("optional_parameter", .seq [
    .ref "_parameter_name", str "?", annotation, opt (.ref "_initializer")]),
  ("_parameter_name", .seq [
    decorators, opt (.ref "accessibility_modifier"), opt (.ref "override_modifier"),
    opt (str "readonly"), field "pattern" (.choice [.ref "pattern", .ref "this"])])]

/-- Types. -/
def typeRules : List (String × Rule) :=
  let member := ("member_expression", "_type_query_member_expression_in_type_annotation")
  let call := ("call_expression", "_type_query_call_expression_in_type_annotation")
  let predicates := [Rule.ref "type_predicate", .ref "identifier", .ref "this"]
  let weak (r : Rule) : Rule := .prec (.level (-1)) none r
  [
  ("omitting_type_annotation", .seq [str "-?:", .ref "type"]),
  ("adding_type_annotation", .seq [str "+?:", .ref "type"]),
  ("opting_type_annotation", .seq [str "?:", .ref "type"]),
  ("type_annotation", .seq [str ":", .choice ([.ref "type"] ++ queried [member, call])]),
  ("_type_query_member_expression_in_type_annotation", .seq [
    field "object" (.choice ([.ref "import"] ++ queried [member, call])),
    str ".",
    queriedProperty]),
  ("_type_query_call_expression_in_type_annotation", .seq [
    field "function" (.choice ([.ref "import"] ++ queried [member])),
    field "arguments" (.ref "arguments")]),
  ("asserts", .seq [str "asserts", .choice predicates]),
  ("asserts_annotation", .seq [str ":", .ref "asserts"]),
  ("type", .choice ([
    .ref "primary_type", .ref "function_type", .ref "readonly_type", .ref "constructor_type",
    .ref "infer_type"] ++ (queried [member, call]).map weak)),
  ("tuple_parameter", .seq [
    field "name" (.choice [.ref "identifier", .ref "rest_pattern"]),
    field "type" (.ref "type_annotation")]),
  ("optional_tuple_parameter", .seq [
    field "name" (.ref "identifier"), str "?", field "type" (.ref "type_annotation")]),
  ("optional_type", .seq [.ref "type", str "?"]),
  ("rest_type", .seq [str "...", .ref "type"]),
  ("_tuple_type_member", .choice [
    .named "required_parameter" (.ref "tuple_parameter"),
    .named "optional_parameter" (.ref "optional_tuple_parameter"),
    .ref "optional_type", .ref "rest_type", .ref "type"]),
  ("constructor_type", left (.seq [
    opt (str "abstract"), str "new", typeParameters,
    field "parameters" (.ref "formal_parameters"), str "=>", field "type" (.ref "type")])),
  ("primary_type", .choice [
    .ref "parenthesized_type", .ref "predefined_type", .ref "_type_identifier",
    .ref "nested_type_identifier", .ref "generic_type", .ref "object_type", .ref "array_type",
    .ref "tuple_type", .ref "flow_maybe_type", .ref "type_query", .ref "index_type_query",
    .named "this_type" (.ref "this"), .ref "existential_type", .ref "literal_type",
    .ref "lookup_type", .ref "conditional_type", .ref "template_literal_type",
    .ref "intersection_type", .ref "union_type", str "const"]),
  ("template_type", .seq [
    str "$\x7b", .choice [.ref "primary_type", .ref "infer_type"], str "\x7d"]),
  ("template_literal_type", .seq [
    str "`",
    many (.choice [.named "string_fragment" (.ref "_template_chars"), .ref "template_type"]),
    str "`"]),
  ("infer_type", right (.seq [
    str "infer", .ref "_type_identifier", opt (.seq [str "extends", .ref "type"])])),
  ("conditional_type", right (.seq [
    field "left" (.ref "type"), str "extends", field "right" (.ref "type"), str "?",
    field "consequence" (.ref "type"), str ":", field "alternative" (.ref "type")])),
  ("generic_type", level "call" (.seq [
    field "name" (.choice [.ref "_type_identifier", .ref "nested_type_identifier"]),
    field "type_arguments" (.ref "type_arguments")])),
  ("type_predicate", .seq [
    field "name" (.choice [
      .ref "identifier", .ref "this", .named "identifier" (.ref "predefined_type")]),
    str "is",
    field "type" (.ref "type")]),
  ("type_predicate_annotation", .seq [str ":", .ref "type_predicate"]),
  ("_type_query_member_expression", .seq [
    queriedObject, .choice [str ".", str "?."], queriedProperty]),
  ("_type_query_subscript_expression", .seq [
    queriedObject, opt (str "?."), str "[",
    field "index" (.choice [.ref "predefined_type", .ref "string", .ref "number"]), str "]"]),
  ("_type_query_call_expression", .seq [queriedFunction, field "arguments" (.ref "arguments")]),
  ("_type_query_instantiation_expression", .seq [
    queriedFunction, field "type_arguments" (.ref "type_arguments")]),
  ("type_query", right (.seq [
    str "typeof",
    .choice (queried [
      ("subscript_expression", "_type_query_subscript_expression"),
      ("member_expression", "_type_query_member_expression"),
      ("call_expression", "_type_query_call_expression"),
      ("instantiation_expression", "_type_query_instantiation_expression")]
      ++ [.ref "identifier", .ref "this"])])),
  ("index_type_query", .seq [str "keyof", .ref "primary_type"]),
  ("lookup_type", .seq [.ref "primary_type", str "[", .ref "type", str "]"]),
  ("mapped_type_clause", .seq [
    field "name" (.ref "_type_identifier"), str "in", field "type" (.ref "type"),
    opt (.seq [str "as", field "alias" (.ref "type")])]),
  ("literal_type", .choice [
    .named "unary_expression" (.ref "_number"), .ref "number", .ref "string", .ref "true",
    .ref "false", .ref "null", .ref "undefined"]),
  ("_number", .prec (.level 1) (some .left) (.seq [
    field "operator" (.choice [str "-", str "+"]), field "argument" (.ref "number")])),
  ("existential_type", str "*"),
  ("flow_maybe_type", right (.seq [str "?", .ref "primary_type"])),
  ("parenthesized_type", .seq [str "(", .ref "type", str ")"]),
  ("predefined_type", .choice [
    str "any", str "number", str "boolean", str "string", str "symbol",
    .renamed "unique symbol" false (.seq [str "unique", str "symbol"]), str "void", str "unknown",
    str "never", str "object"]),
  ("type_arguments", .seq [str "<", commaSep1 (.ref "type"), opt (str ","), str ">"]),
  ("object_type", .seq [
    .choice [str "\x7b", str "\x7b|"],
    opt (.seq [
      opt (.choice [str ",", str ";"]),
      sepBy1 (.choice [str ",", .ref "_semicolon"]) (.choice [
        .ref "export_statement", .ref "property_signature", .ref "call_signature",
        .ref "construct_signature", .ref "index_signature", .ref "method_signature"]),
      opt (.choice [str ",", .ref "_semicolon"])]),
    .choice [str "\x7d", str "|\x7d"]]),
  ("call_signature", .ref "_call_signature"),
  ("property_signature", .seq (modifiers ++ [
    field "name" (.ref "_property_name"), opt (str "?"), annotation])),
  ("type_parameters", .seq [str "<", commaSep1 (.ref "type_parameter"), opt (str ","), str ">"]),
  ("type_parameter", .seq [
    opt (str "const"), field "name" (.ref "_type_identifier"), optField "constraint" "constraint",
    optField "value" "default_type"]),
  ("default_type", .seq [str "=", .ref "type"]),
  ("constraint", .seq [.choice [str "extends", str ":"], .ref "type"]),
  ("construct_signature", .seq [
    opt (str "abstract"), str "new", typeParameters,
    field "parameters" (.ref "formal_parameters"), annotation]),
  ("index_signature", .seq [
    opt (.seq [field "sign" (opt (.choice [str "-", str "+"])), str "readonly"]),
    str "[",
    .choice [
      .seq [
        field "name" (.choice [
          .ref "identifier", .named "identifier" (.ref "_reserved_identifier")]),
        str ":",
        field "index_type" (.ref "type")],
      .ref "mapped_type_clause"],
    str "]",
    field "type" (.choice [
      .ref "type_annotation", .ref "omitting_type_annotation", .ref "adding_type_annotation",
      .ref "opting_type_annotation"])]),
  ("array_type", .seq [.ref "primary_type", str "[", str "]"]),
  ("tuple_type", .seq [str "[", commaSep (.ref "_tuple_type_member"), opt (str ","), str "]"]),
  ("readonly_type", .seq [str "readonly", .ref "type"]),
  ("union_type", left (.seq [opt (.ref "type"), str "|", .ref "type"])),
  ("intersection_type", left (.seq [opt (.ref "type"), str "&", .ref "type"])),
  ("function_type", left (.seq [
    typeParameters, field "parameters" (.ref "formal_parameters"), str "=>",
    field "return_type" (.choice [.ref "type", .ref "asserts", .ref "type_predicate"])])),
  ("_type_identifier", .named "type_identifier" (.ref "identifier"))]

/-- The rules: those of JavaScript, changed where they differ, and then the further ones. -/
def rules (form : Form) : List (String × Rule) :=
  JavaScript.rules.map (fun (name, old) =>
    match (changes form).lookup name with
    | some change => (name, change old)
    | none => (name, old))
    ++ declarationRules ++ typeRules

/-- Precedence orders beyond those of JavaScript. -/
def orders : List (List Rank) := [
  [.level "call", .level "instantiation", .level "unary", .level "binary",
    .rule "await_expression", .rule "arrow_function"],
  [.level "extends", .level "instantiation"],
  [.rule "intersection_type", .rule "union_type", .rule "conditional_type", .rule "function_type",
    .level "binary", .rule "type_predicate", .rule "readonly_type"],
  [.rule "mapped_type_clause", .rule "primary_expression"],
  [.rule "accessibility_modifier", .rule "primary_expression"],
  [.level "unary_void", .rule "expression"],
  [.rule "extends_clause", .rule "primary_expression"],
  [.level "unary", .level "assign"],
  [.level "declare", .rule "expression"],
  [.rule "predefined_type", .rule "unary_expression"],
  [.rule "type", .rule "flow_maybe_type"],
  [.rule "tuple_type", .rule "array_type", .rule "pattern", .rule "type"],
  [.rule "readonly_type", .rule "pattern"],
  [.rule "readonly_type", .rule "primary_expression"],
  [.rule "type_query", .rule "subscript_expression", .rule "expression"],
  [.rule "type_query", .rule "_type_query_subscript_expression"],
  [.rule "nested_type_identifier", .rule "generic_type", .rule "primary_type", .rule "lookup_type",
    .rule "index_type_query", .rule "type"],
  [.rule "as_expression", .rule "satisfies_expression", .rule "primary_type"],
  [.rule "_type_query_member_expression", .rule "member_expression"],
  [.rule "member_expression", .rule "_type_query_member_expression_in_type_annotation"],
  [.rule "_type_query_member_expression", .rule "primary_expression"],
  [.rule "_type_query_subscript_expression", .rule "subscript_expression"],
  [.rule "_type_query_subscript_expression", .rule "primary_expression"],
  [.rule "_type_query_call_expression", .rule "primary_expression"],
  [.rule "_type_query_instantiation_expression", .rule "primary_expression"],
  [.rule "type_query", .rule "primary_expression"],
  [.rule "override_modifier", .rule "primary_expression"],
  [.rule "decorator_call_expression", .rule "decorator"],
  [.rule "literal_type", .rule "pattern"],
  [.rule "predefined_type", .rule "pattern"],
  [.rule "call_expression", .rule "_type_query_call_expression"],
  [.rule "call_expression", .rule "_type_query_call_expression_in_type_annotation"],
  [.rule "new_expression", .rule "primary_expression"],
  [.rule "meta_property", .rule "primary_expression"],
  [.rule "construct_signature", .rule "_property_name"]]

/-- Further ambiguities that the following text settles. -/
def conflicts (form : Form) : List (List String) := [
  ["call_expression", "instantiation_expression", "binary_expression"],
  ["call_expression", "instantiation_expression", "binary_expression", "unary_expression"],
  ["call_expression", "instantiation_expression", "binary_expression", "update_expression"],
  ["call_expression", "instantiation_expression", "binary_expression", "await_expression"],
  ["class"],
  ["nested_identifier", "nested_type_identifier", "primary_expression"],
  ["nested_identifier", "nested_type_identifier"],
  ["_call_signature", "function_type"],
  ["_call_signature", "constructor_type"],
  ["primary_expression", "_parameter_name"],
  ["primary_expression", "_parameter_name", "primary_type"],
  ["primary_expression", "literal_type"],
  ["primary_expression", "literal_type", "rest_pattern"],
  ["primary_expression", "predefined_type", "rest_pattern"],
  ["primary_expression", "primary_type"],
  ["primary_expression", "generic_type"],
  ["primary_expression", "predefined_type"],
  ["primary_expression", "pattern", "primary_type"],
  ["_parameter_name", "primary_type"],
  ["pattern", "primary_type"],
  ["optional_tuple_parameter", "primary_type"],
  ["rest_pattern", "primary_type", "primary_expression"],
  ["object", "object_type"],
  ["object", "object_pattern", "object_type"],
  ["object", "object_pattern", "_property_name"],
  ["object_pattern", "object_type"],
  ["array", "tuple_type"],
  ["array", "array_pattern", "tuple_type"],
  ["array_pattern", "tuple_type"],
  ["template_literal_type", "template_string"]]
  ++ match form with
    | .plain => [["primary_type", "type_parameter"]]
    | .markup => [["jsx_opening_element", "type_parameter"], ["jsx_namespace_name", "primary_type"]]

/-- The grammar of a form of TypeScript. -/
def grammar (form : Form) : CodeGraph.Grammar where
  name := match form with
    | .plain => "typescript"
    | .markup => "tsx"
  rules := rules form
  extras := JavaScript.extras
  externals := JavaScript.externals ++
    [.ref "_function_signature_automatic_semicolon", .ref "__error_recovery"]
  inlined := JavaScript.inlined.filter (fun n => n != "_formal_parameter" && n != "_call_signature")
    ++ ["_type_identifier", "_jsx_start_opening_element"]
  supertypes := JavaScript.supertypes ++ ["type", "primary_type"]
  orders := JavaScript.orders ++ orders
  word := "identifier"
  conflicts := JavaScript.conflicts ++ conflicts form

end CodeGraph.Languages.TypeScript
