import CodeGraph.Grammar.Rule

/-! # JavaScript

The grammar of JavaScript with JSX. Rules whose names begin with an underscore leave no node in the
tree. -/

namespace CodeGraph.Languages.JavaScript

open CodeGraph.Grammar Rule

/-- White space and other invisible characters. -/
def blank : CharSet :=
  CharSet.space ++ ⟨[(0xFEFF, 0xFEFF), (0x2060, 0x2060), (0x200B, 0x200B)], false⟩

/-- Characters that no name contains. -/
def separating : CharSet :=
  ⟨[(0, 0x1F)], false⟩ ++ blank ++ CharSet.of ":;`\"'@#.,|^&<=>+-*/\\%?!~()[]\x7b\x7d"

/-- A character written by its code. -/
def escapedCode : Pattern :=
  .choice [.seq [.text "\\u", Pattern.times 4 (.one .hex)],
    .seq [.text "\\u\x7b", Pattern.some .hex, .text "\x7d"]]

/-- First part of a name. -/
def nameStart : Pattern := .choice [.one (separating ++ CharSet.digit).compl, escapedCode]

/-- Further part of a name. -/
def nameRest : Pattern := .choice [.one separating.compl, escapedCode]

/-- Digits with single underscores between them. -/
def digits (set : CharSet) : Pattern :=
  .seq [.one set, .star (.seq [.opt (.text "_"), .one set])]

/-- A number. -/
def number : Pattern :=
  let hexLiteral := Pattern.seq [.choice [.text "0x", .text "0X"], digits .hex]
  let decimals := digits .digit
  let signed := Pattern.seq [.opt (.one (CharSet.of "-+")), decimals]
  let exponent := Pattern.seq [.one (CharSet.of "eE"), signed]
  let binary := Pattern.seq [.choice [.text "0b", .text "0B"], digits (CharSet.of "01")]
  let octal := Pattern.seq [.choice [.text "0o", .text "0O"], digits (.range '0' '7')]
  let big := Pattern.seq [.choice [hexLiteral, binary, octal, decimals], .text "n"]
  let whole := Pattern.choice [.text "0",
    .seq [.opt (.text "0"), .one (.range '1' '9'), .opt (.seq [.opt (.text "_"), decimals])]]
  let decimal := Pattern.choice [
    .seq [whole, .text ".", .opt decimals, .opt exponent],
    .seq [.text ".", decimals, .opt exponent],
    .seq [whole, exponent],
    decimals]
  .choice [hexLiteral, decimal, binary, octal, big]

/-- A comment. -/
def comment : Pattern :=
  let star := CharSet.of "*"
  .choice [
    .seq [.text "//", Pattern.any (CharSet.of "\r\n\u2028\u2029").compl],
    .seq [.text "/*", Pattern.any star.compl, Pattern.some star,
      .star (.seq [.one (CharSet.of "/*").compl, Pattern.any star.compl, Pattern.some star]),
      .text "/"]]

/-- An escape inside a string. -/
def escape : Pattern :=
  let octal := CharSet.range '0' '7'
  .seq [.text "\\", .choice [
    .one (CharSet.of "xu" ++ octal).compl,
    .seq [.one octal, .opt (.one octal), .opt (.one octal)],
    .seq [.text "x", Pattern.times 2 (.one .hex)],
    .seq [.text "u", Pattern.times 4 (.one .hex)],
    .seq [.text "u\x7b", Pattern.some .hex, .text "\x7d"],
    .seq [.one (CharSet.of "\r?"), .one (CharSet.of "\n\u2028\u2029")]]]

/-- The body of a regular expression. -/
def regexBody : Pattern :=
  let escaped := Pattern.seq [.text "\\", .one .notNewline]
  .plus (.choice [
    .seq [.text "[", .star (.choice [escaped, .one (CharSet.of "]\n\\").compl]), .text "]"],
    escaped,
    .one (CharSet.of "/\\[\n").compl])

/-- Letters, digits and signs of a tag name. -/
def tagChar : CharSet := .range 'a' 'z' ++ .range 'A' 'Z' ++ CharSet.of "_$"

/-- A reference to a character by name or number, as in markup. -/
def entity : Pattern :=
  let upTo (n : Nat) (s : CharSet) : Pattern :=
    .seq (.one s :: List.replicate (n - 1) (.opt (.one s)))
  .seq [.text "&", .choice [
    .seq [.text "#", .choice [
      .seq [.one (CharSet.of "xX"), upTo 6 .hex], upTo 5 .digit]],
    upTo 30 (.range 'a' 'z' ++ .range 'A' 'Z')], .text ";"]

/-- The text of a quoted attribute. -/
def attributeText (quote : String) : Pattern :=
  .plus (.choice [.one (CharSet.of (quote ++ "&")).compl,
    .seq [.text "&", .one (CharSet.of "#" ++ .range 'a' 'z' ++ .range 'A' 'Z').compl]])

/-- A word that is an ordinary name in most places. -/
def reserved : List String := ["get", "set", "async", "static", "export", "let"]

/-- Binary operators with their precedence; only the power operator groups to the right. -/
def binaryOperators : List (String × String) :=
  [("&&", "logical_and"), ("||", "logical_or"), (">>", "binary_shift"), (">>>", "binary_shift"),
   ("<<", "binary_shift"), ("&", "bitwise_and"), ("^", "bitwise_xor"), ("|", "bitwise_or"),
   ("+", "binary_plus"), ("-", "binary_plus"), ("*", "binary_times"), ("/", "binary_times"),
   ("%", "binary_times"), ("**", "binary_exp"), ("<", "binary_relation"),
   ("<=", "binary_relation"), ("==", "binary_equality"), ("===", "binary_equality"),
   ("!=", "binary_equality"), ("!==", "binary_equality"), (">=", "binary_relation"),
   (">", "binary_relation"), ("??", "ternary"), ("instanceof", "binary_relation"),
   ("in", "binary_relation")]

/-- A rule with a named precedence. -/
def level (name : String) (r : Rule) : Rule := .prec (.named name) none r

/-- A rule with a named precedence that groups to the right. -/
def levelRight (name : String) (r : Rule) : Rule := .prec (.named name) (some .right) r

/-- A rule with a named precedence that groups to the left. -/
def levelLeft (name : String) (r : Rule) : Rule := .prec (.named name) (some .left) r

/-- One binary operator. -/
def binaryRule (operator precedence : String) : Rule :=
  let operand := if operator == "in" then
      .choice [.ref "expression", .ref "private_property_identifier"]
    else Rule.ref "expression"
  let body := Rule.seq [field "left" operand, field "operator" (str operator),
    field "right" (.ref "expression")]
  if operator == "**" then levelRight precedence body else levelLeft precedence body

/-- A name, also one that is reserved elsewhere, as a node of the given kind. -/
def anyName (kind : String) : Rule :=
  .named kind (.choice [.ref "identifier", .ref "_reserved_identifier"])

/-- A quoted string of fragments and escapes. -/
def quoted (quote fragment : String) (other : String) : Rule :=
  .seq [str quote, many (.choice [.named "string_fragment" (.ref fragment), .ref other]), str quote]

/-- The body of a function. -/
def body : Rule := field "body" (.ref "statement_block")

/-- Decorators in front of a declaration. -/
def decorators : Rule := many (field "decorator" (.ref "decorator"))

/-- What can be bound by a declaration. -/
def bindingTarget : Rule := .choice [.ref "identifier", .ref "_destructuring_pattern"]

/-- Statements and their parts. -/
def statementRules : List (String × Rule) := [
  ("program", .seq [opt (.ref "hash_bang_line"), many (.ref "statement")]),
  ("hash_bang_line", pat (.seq [.text "#!", Pattern.any .notNewline])),
  ("export_statement", .choice [
    .seq [str "export",
      .choice [
        .seq [str "*", .ref "_from_clause"],
        .seq [.ref "namespace_export", .ref "_from_clause"],
        .seq [.ref "export_clause", .ref "_from_clause"],
        .ref "export_clause"],
      .ref "_semicolon"],
    .seq [decorators, str "export",
      .choice [
        field "declaration" (.ref "declaration"),
        .seq [str "default", .choice [
          field "declaration" (.ref "declaration"),
          .seq [field "value" (.ref "expression"), .ref "_semicolon"]]]]]]),
  ("namespace_export", .seq [str "*", str "as", .ref "_module_export_name"]),
  ("export_clause", .seq [str "\x7b", commaSep (.ref "export_specifier"), opt (str ","), str "\x7d"]),
  ("export_specifier", .seq [
    field "name" (.ref "_module_export_name"),
    opt (.seq [str "as", field "alias" (.ref "_module_export_name")])]),
  ("_module_export_name", .choice [.ref "identifier", .ref "string"]),
  ("declaration", .choice [
    .ref "function_declaration", .ref "generator_function_declaration", .ref "class_declaration",
    .ref "lexical_declaration", .ref "variable_declaration"]),
  ("import", str "import"),
  ("import_statement", .seq [
    str "import",
    .choice [.seq [.ref "import_clause", .ref "_from_clause"], field "source" (.ref "string")],
    opt (.ref "import_attribute"),
    .ref "_semicolon"]),
  ("import_clause", .choice [
    .ref "namespace_import",
    .ref "named_imports",
    .seq [.ref "identifier",
      opt (.seq [str ",", .choice [.ref "namespace_import", .ref "named_imports"]])]]),
  ("_from_clause", .seq [str "from", field "source" (.ref "string")]),
  ("namespace_import", .seq [str "*", str "as", .ref "identifier"]),
  ("named_imports", .seq [str "\x7b", commaSep (.ref "import_specifier"), opt (str ","), str "\x7d"]),
  ("import_specifier", .choice [
    field "name" (.ref "identifier"),
    .seq [
      field "name" (.choice [.ref "_module_export_name", .named "identifier" (str "default")]),
      str "as",
      field "alias" (.ref "identifier")]]),
  ("import_attribute", .seq [str "with", .ref "object"]),
  ("statement", .choice [
    .ref "export_statement", .ref "import_statement", .ref "debugger_statement",
    .ref "expression_statement", .ref "declaration", .ref "statement_block", .ref "if_statement",
    .ref "switch_statement", .ref "for_statement", .ref "for_in_statement", .ref "while_statement",
    .ref "do_statement", .ref "try_statement", .ref "with_statement", .ref "break_statement",
    .ref "continue_statement", .ref "return_statement", .ref "throw_statement",
    .ref "empty_statement", .ref "labeled_statement"]),
  ("expression_statement", .seq [.ref "_expressions", .ref "_semicolon"]),
  ("variable_declaration", .seq [
    str "var", commaSep1 (.ref "variable_declarator"), .ref "_semicolon"]),
  ("lexical_declaration", .seq [
    field "kind" (.choice [str "let", str "const"]),
    commaSep1 (.ref "variable_declarator"),
    .ref "_semicolon"]),
  ("variable_declarator", .seq [field "name" bindingTarget, opt (.ref "_initializer")]),
  ("statement_block", right (.seq [
    str "\x7b", many (.ref "statement"), str "\x7d", opt (.ref "_automatic_semicolon")])),
  ("else_clause", .seq [str "else", .ref "statement"]),
  ("if_statement", right (.seq [
    str "if",
    field "condition" (.ref "parenthesized_expression"),
    field "consequence" (.ref "statement"),
    opt (field "alternative" (.ref "else_clause"))])),
  ("switch_statement", .seq [
    str "switch",
    field "value" (.ref "parenthesized_expression"),
    field "body" (.ref "switch_body")]),
  ("for_statement", .seq [
    str "for",
    str "(",
    .choice [
      field "initializer" (.choice [.ref "lexical_declaration", .ref "variable_declaration"]),
      .seq [field "initializer" (.ref "_expressions"), str ";"],
      field "initializer" (.ref "empty_statement")],
    field "condition" (.choice [.seq [.ref "_expressions", str ";"], .ref "empty_statement"]),
    field "increment" (opt (.ref "_expressions")),
    str ")",
    field "body" (.ref "statement")]),
  ("for_in_statement", .seq [
    str "for", opt (str "await"), .ref "_for_header", field "body" (.ref "statement")]),
  ("_for_header", .seq [
    str "(",
    .choice [
      field "left" (.choice [.ref "_lhs_expression", .ref "parenthesized_expression"]),
      .seq [field "kind" (str "var"), field "left" bindingTarget, opt (.ref "_initializer")],
      .seq [field "kind" (.choice [str "let", str "const"]), field "left" bindingTarget,
        opt (.ref "_automatic_semicolon")]],
    field "operator" (.choice [str "in", str "of"]),
    field "right" (.ref "_expressions"),
    str ")"]),
  ("while_statement", .seq [
    str "while",
    field "condition" (.ref "parenthesized_expression"),
    field "body" (.ref "statement")]),
  ("do_statement", right (.seq [
    str "do",
    field "body" (.ref "statement"),
    str "while",
    field "condition" (.ref "parenthesized_expression"),
    opt (.ref "_semicolon")])),
  ("try_statement", .seq [
    str "try",
    body,
    opt (field "handler" (.ref "catch_clause")),
    opt (field "finalizer" (.ref "finally_clause"))]),
  ("with_statement", .seq [
    str "with",
    field "object" (.ref "parenthesized_expression"),
    field "body" (.ref "statement")]),
  ("break_statement", .seq [
    str "break",
    field "label" (opt (.named "statement_identifier" (.ref "identifier"))),
    .ref "_semicolon"]),
  ("continue_statement", .seq [
    str "continue",
    field "label" (opt (.named "statement_identifier" (.ref "identifier"))),
    .ref "_semicolon"]),
  ("debugger_statement", .seq [str "debugger", .ref "_semicolon"]),
  ("return_statement", .seq [str "return", opt (.ref "_expressions"), .ref "_semicolon"]),
  ("throw_statement", .seq [str "throw", .ref "_expressions", .ref "_semicolon"]),
  ("empty_statement", str ";"),
  ("labeled_statement", .weight (-1) (.seq [
    field "label" (anyName "statement_identifier"),
    str ":",
    field "body" (.ref "statement")])),
  ("switch_body", .seq [
    str "\x7b", many (.choice [.ref "switch_case", .ref "switch_default"]), str "\x7d"]),
  ("switch_case", .seq [
    str "case", field "value" (.ref "_expressions"), str ":", field "body" (many (.ref "statement"))]),
  ("switch_default", .seq [str "default", str ":", field "body" (many (.ref "statement"))]),
  ("catch_clause", .seq [
    str "catch",
    opt (.seq [str "(", field "parameter" bindingTarget, str ")"]),
    body]),
  ("finally_clause", .seq [str "finally", body]),
  ("parenthesized_expression", .seq [str "(", .ref "_expressions", str ")"])]

/-- Expressions, literals and patterns of object and array form. -/
def expressionRules : List (String × Rule) := [
  ("_expressions", .choice [.ref "expression", .ref "sequence_expression"]),
  ("expression", .choice [
    .ref "primary_expression", .ref "_jsx_element", .ref "assignment_expression",
    .ref "augmented_assignment_expression", .ref "await_expression", .ref "unary_expression",
    .ref "binary_expression", .ref "ternary_expression", .ref "update_expression",
    .ref "new_expression", .ref "yield_expression"]),
  ("primary_expression", .choice [
    .ref "subscript_expression", .ref "member_expression", .ref "parenthesized_expression",
    .ref "_identifier", .named "identifier" (.ref "_reserved_identifier"), .ref "this",
    .ref "super", .ref "number", .ref "string", .ref "template_string", .ref "regex", .ref "true",
    .ref "false", .ref "null", .ref "object", .ref "array", .ref "function_expression",
    .ref "arrow_function", .ref "generator_function", .ref "class", .ref "meta_property",
    .ref "call_expression"]),
  ("yield_expression", right (.seq [
    str "yield",
    .choice [.seq [str "*", .ref "expression"], opt (.ref "expression")]])),
  ("object", level "object" (.seq [
    str "\x7b",
    commaSep (opt (.choice [
      .ref "pair", .ref "spread_element", .ref "method_definition",
      anyName "shorthand_property_identifier"])),
    str "\x7d"])),
  ("object_pattern", level "object" (.seq [
    str "\x7b",
    commaSep (opt (.choice [
      .ref "pair_pattern", .ref "rest_pattern", .ref "object_assignment_pattern",
      anyName "shorthand_property_identifier_pattern"])),
    str "\x7d"])),
  ("assignment_pattern", .seq [
    field "left" (.ref "pattern"), str "=", field "right" (.ref "expression")]),
  ("object_assignment_pattern", .seq [
    field "left" (.choice [
      .named "shorthand_property_identifier_pattern"
        (.choice [.ref "_reserved_identifier", .ref "identifier"]),
      .ref "_destructuring_pattern"]),
    str "=",
    field "right" (.ref "expression")]),
  ("array", .seq [
    str "[", commaSep (opt (.choice [.ref "expression", .ref "spread_element"])), str "]"]),
  ("array_pattern", .seq [
    str "[", commaSep (opt (.choice [.ref "pattern", .ref "assignment_pattern"])), str "]"])]

/-- Markup inside expressions. -/
def markupRules : List (String × Rule) := [
  ("_jsx_element", .choice [.ref "jsx_element", .ref "jsx_self_closing_element"]),
  ("jsx_element", .seq [
    field "open_tag" (.ref "jsx_opening_element"),
    many (.ref "_jsx_child"),
    field "close_tag" (.ref "jsx_closing_element")]),
  ("html_character_reference", pat entity),
  ("jsx_expression", .seq [
    str "\x7b",
    opt (.choice [.ref "expression", .ref "sequence_expression", .ref "spread_element"]),
    str "\x7d"]),
  ("_jsx_child", .choice [
    .ref "jsx_text", .ref "html_character_reference", .ref "_jsx_element", .ref "jsx_expression"]),
  ("jsx_opening_element", .weight (-1) (.seq [
    str "<",
    opt (.seq [
      field "name" (.ref "_jsx_element_name"),
      many (field "attribute" (.ref "_jsx_attribute"))]),
    str ">"])),
  ("jsx_identifier", pat (.seq [
    .one tagChar, Pattern.any (tagChar ++ .digit), .text "-",
    Pattern.any (tagChar ++ .digit ++ CharSet.of "-")])),
  ("_jsx_identifier", .choice [.named "identifier" (.ref "jsx_identifier"), .ref "identifier"]),
  ("nested_identifier", level "member" (.seq [
    field "object" (.choice [
      .ref "identifier", .named "member_expression" (.ref "nested_identifier")]),
    str ".",
    field "property" (.named "property_identifier" (.ref "identifier"))])),
  ("jsx_namespace_name", .seq [.ref "_jsx_identifier", str ":", .ref "_jsx_identifier"]),
  ("_jsx_element_name", .choice [
    .ref "_jsx_identifier", .named "member_expression" (.ref "nested_identifier"),
    .ref "jsx_namespace_name"]),
  ("jsx_closing_element", .seq [
    str "</", opt (field "name" (.ref "_jsx_element_name")), str ">"]),
  ("jsx_self_closing_element", .seq [
    str "<",
    field "name" (.ref "_jsx_element_name"),
    many (field "attribute" (.ref "_jsx_attribute")),
    str "/>"]),
  ("_jsx_attribute", .choice [.ref "jsx_attribute", .ref "jsx_expression"]),
  ("_jsx_attribute_name", .choice [
    .named "property_identifier" (.ref "_jsx_identifier"), .ref "jsx_namespace_name"]),
  ("jsx_attribute", .seq [
    .ref "_jsx_attribute_name", opt (.seq [str "=", .ref "_jsx_attribute_value"])]),
  ("_jsx_string", .choice [
    quoted "\"" "unescaped_double_jsx_string_fragment" "html_character_reference",
    quoted "'" "unescaped_single_jsx_string_fragment" "html_character_reference"]),
  ("unescaped_double_jsx_string_fragment", adjacent (attributeText "\"") 1),
  ("unescaped_single_jsx_string_fragment", adjacent (attributeText "'") 1),
  ("_jsx_attribute_value", .choice [
    .named "string" (.ref "_jsx_string"), .ref "jsx_expression", .ref "_jsx_element"])]

/-- Classes, functions and operators. -/
def operatorRules : List (String × Rule) := [
  ("class", level "literal" (.seq [
    decorators, str "class", field "name" (opt (.ref "identifier")), opt (.ref "class_heritage"),
    field "body" (.ref "class_body")])),
  ("class_declaration", level "declare" (.seq [
    decorators, str "class", field "name" (.ref "identifier"), opt (.ref "class_heritage"),
    field "body" (.ref "class_body"), opt (.ref "_automatic_semicolon")])),
  ("class_heritage", .seq [str "extends", .ref "expression"]),
  ("function_expression", level "literal" (.seq [
    opt (str "async"), str "function", field "name" (opt (.ref "identifier")),
    .ref "_call_signature", body])),
  ("function_declaration", levelRight "declare" (.seq [
    opt (str "async"), str "function", field "name" (.ref "identifier"), .ref "_call_signature",
    body, opt (.ref "_automatic_semicolon")])),
  ("generator_function", level "literal" (.seq [
    opt (str "async"), str "function", str "*", field "name" (opt (.ref "identifier")),
    .ref "_call_signature", body])),
  ("generator_function_declaration", levelRight "declare" (.seq [
    opt (str "async"), str "function", str "*", field "name" (.ref "identifier"),
    .ref "_call_signature", body, opt (.ref "_automatic_semicolon")])),
  ("arrow_function", .seq [
    opt (str "async"),
    .choice [
      field "parameter" (.choice [
        .named "identifier" (.ref "_reserved_identifier"), .ref "identifier"]),
      .ref "_call_signature"],
    str "=>",
    field "body" (.choice [.ref "expression", .ref "statement_block"])]),
  ("_call_signature", field "parameters" (.ref "formal_parameters")),
  ("_formal_parameter", .choice [.ref "pattern", .ref "assignment_pattern"]),
  ("optional_chain", str "?."),
  ("call_expression", .choice [
    level "call" (.seq [
      field "function" (.choice [.ref "expression", .ref "import"]),
      field "arguments" (.ref "arguments")]),
    level "template_call" (.seq [
      field "function" (.choice [.ref "primary_expression", .ref "new_expression"]),
      field "arguments" (.ref "template_string")]),
    level "member" (.seq [
      field "function" (.ref "primary_expression"),
      field "optional_chain" (.ref "optional_chain"),
      field "arguments" (.ref "arguments")])]),
  ("new_expression", levelRight "new" (.seq [
    str "new",
    field "constructor" (.choice [.ref "primary_expression", .ref "new_expression"]),
    field "arguments" (opt (.weight 1 (.ref "arguments")))])),
  ("await_expression", level "unary_void" (.seq [str "await", .ref "expression"])),
  ("member_expression", level "member" (.seq [
    field "object" (.choice [.ref "expression", .ref "primary_expression", .ref "import"]),
    .choice [str ".", field "optional_chain" (.ref "optional_chain")],
    field "property" (.choice [
      .ref "private_property_identifier",
      .named "property_identifier" (.ref "identifier")])])),
  ("subscript_expression", levelRight "member" (.seq [
    field "object" (.choice [.ref "expression", .ref "primary_expression"]),
    opt (field "optional_chain" (.ref "optional_chain")),
    str "[", field "index" (.ref "_expressions"), str "]"])),
  ("_lhs_expression", .choice [
    .ref "member_expression", .ref "subscript_expression", .ref "_identifier",
    .named "identifier" (.ref "_reserved_identifier"), .ref "_destructuring_pattern"]),
  ("assignment_expression", levelRight "assign" (.seq [
    opt (str "using"),
    field "left" (.choice [.ref "parenthesized_expression", .ref "_lhs_expression"]),
    str "=",
    field "right" (.ref "expression")])),
  ("_augmented_assignment_lhs", .choice [
    .ref "member_expression", .ref "subscript_expression",
    .named "identifier" (.ref "_reserved_identifier"), .ref "identifier",
    .ref "parenthesized_expression"]),
  ("augmented_assignment_expression", levelRight "assign" (.seq [
    field "left" (.ref "_augmented_assignment_lhs"),
    field "operator" (.choice (["+=", "-=", "*=", "/=", "%=", "^=", "&=", "|=", ">>=", ">>>=",
      "<<=", "**=", "&&=", "||=", "??="].map str)),
    field "right" (.ref "expression")])),
  ("_initializer", .seq [str "=", field "value" (.ref "expression")]),
  ("_destructuring_pattern", .choice [.ref "object_pattern", .ref "array_pattern"]),
  ("spread_element", .seq [str "...", .ref "expression"]),
  ("ternary_expression", levelRight "ternary" (.seq [
    field "condition" (.ref "expression"),
    .renamed "?" false (.ref "_ternary_qmark"),
    field "consequence" (.ref "expression"),
    str ":",
    field "alternative" (.ref "expression")])),
  ("binary_expression", .choice (binaryOperators.map fun (o, p) => binaryRule o p)),
  ("unary_expression", levelLeft "unary_void" (.seq [
    field "operator" (.choice (["!", "~", "-", "+", "typeof", "void", "delete"].map str)),
    field "argument" (.ref "expression")])),
  ("update_expression", left (.choice [
    .seq [field "argument" (.ref "expression"), field "operator" (.choice [str "++", str "--"])],
    .seq [field "operator" (.choice [str "++", str "--"]), field "argument" (.ref "expression")]])),
  ("sequence_expression", right (commaSep1 (.ref "expression")))]

/-- Literals, names and the parts of classes and calls. -/
def literalRules : List (String × Rule) := [
  ("string", .choice [
    quoted "\"" "unescaped_double_string_fragment" "escape_sequence",
    quoted "'" "unescaped_single_string_fragment" "escape_sequence"]),
  ("unescaped_double_string_fragment", adjacent (Pattern.some (CharSet.of "\"\\\r\n").compl) 1),
  ("unescaped_single_string_fragment", adjacent (Pattern.some (CharSet.of "'\\\r\n").compl) 1),
  ("escape_sequence", adjacent escape),
  ("comment", pat comment),
  ("template_string", .seq [
    str "`",
    many (.choice [
      .named "string_fragment" (.ref "_template_chars"), .ref "escape_sequence",
      .ref "template_substitution"]),
    str "`"]),
  ("template_substitution", .seq [str "$\x7b", .ref "_expressions", str "\x7d"]),
  ("regex", .seq [
    str "/",
    field "pattern" (.ref "regex_pattern"),
    .token { pattern := .text "/", literal := some "/", immediate := true, precedence := 1 },
    opt (field "flags" (.ref "regex_flags"))]),
  ("regex_pattern", adjacent regexBody (-1)),
  ("regex_flags", adjacent (Pattern.some (.range 'a' 'z'))),
  ("number", pat number),
  ("_identifier", .choice [.ref "undefined", .ref "identifier"]),
  ("identifier", pat (.seq [nameStart, .star nameRest])),
  ("private_property_identifier", pat (.seq [.text "#", nameStart, .star nameRest])),
  ("meta_property", .choice [
    .seq [str "new", str ".", str "target"], .seq [str "import", str ".", str "meta"]]),
  ("this", str "this"),
  ("super", str "super"),
  ("true", str "true"),
  ("false", str "false"),
  ("null", str "null"),
  ("undefined", str "undefined"),
  ("arguments", .seq [
    str "(", commaSep (opt (.choice [.ref "expression", .ref "spread_element"])), str ")"]),
  ("decorator", .seq [
    str "@",
    .choice [
      .ref "identifier",
      .named "member_expression" (.ref "decorator_member_expression"),
      .named "call_expression" (.ref "decorator_call_expression")]]),
  ("decorator_member_expression", level "member" (.seq [
    field "object" (.choice [
      .ref "identifier", .named "member_expression" (.ref "decorator_member_expression")]),
    str ".",
    field "property" (.named "property_identifier" (.ref "identifier"))])),
  ("decorator_call_expression", level "call" (.seq [
    field "function" (.choice [
      .ref "identifier", .named "member_expression" (.ref "decorator_member_expression")]),
    field "arguments" (.ref "arguments")])),
  ("class_body", .seq [
    str "\x7b",
    many (.choice [
      .seq [field "member" (.ref "method_definition"), opt (str ";")],
      .seq [field "member" (.ref "field_definition"), .ref "_semicolon"],
      field "member" (.ref "class_static_block"),
      str ";"]),
    str "\x7d"]),
  ("field_definition", .seq [
    decorators, opt (str "static"), field "property" (.ref "_property_name"),
    opt (.ref "_initializer")]),
  ("formal_parameters", .seq [
    str "(", opt (.seq [commaSep1 (.ref "_formal_parameter"), opt (str ",")]), str ")"]),
  ("class_static_block", .seq [str "static", opt (.ref "_automatic_semicolon"), body]),
  ("pattern", .weight (-1) (.choice [.ref "_lhs_expression", .ref "rest_pattern"])),
  ("rest_pattern", right (.seq [str "...", .ref "_lhs_expression"])),
  ("method_definition", .seq [
    decorators,
    opt (.choice [
      str "static",
      .renamed "static get" false (pat (.seq [
        .text "static", Pattern.some .space, .text "get", Pattern.any .space, .text "\n"]))]),
    opt (str "async"),
    opt (.choice [str "get", str "set", str "*"]),
    field "name" (.ref "_property_name"),
    field "parameters" (.ref "formal_parameters"),
    body]),
  ("pair", .seq [field "key" (.ref "_property_name"), str ":", field "value" (.ref "expression")]),
  ("pair_pattern", .seq [
    field "key" (.ref "_property_name"), str ":",
    field "value" (.choice [.ref "pattern", .ref "assignment_pattern"])]),
  ("_property_name", .choice [
    anyName "property_identifier", .ref "private_property_identifier", .ref "string",
    .ref "number", .ref "computed_property_name"]),
  ("computed_property_name", .seq [str "[", .ref "expression", str "]"]),
  ("_reserved_identifier", .choice (reserved.map str)),
  ("_semicolon", .choice [.ref "_automatic_semicolon", str ";"])]

/-- The rules in order. -/
def rules : List (String × Rule) :=
  statementRules ++ expressionRules ++ markupRules ++ operatorRules ++ literalRules

/-- What may stand between tokens. -/
def extras : List Rule := [.ref "comment", .ref "html_comment", pat (.one blank)]

/-- Tokens of the scanner. -/
def externals : List Rule :=
  [.ref "_automatic_semicolon", .ref "_template_chars", .ref "_ternary_qmark", .ref "html_comment",
   str "||", .ref "escape_sequence", .ref "regex_pattern", .ref "jsx_text"]

/-- Inlined rules. -/
def inlined : List String :=
  ["_call_signature", "_formal_parameter", "_expressions", "_semicolon", "_identifier",
   "_reserved_identifier", "_jsx_attribute", "_jsx_element_name", "_jsx_child", "_jsx_element",
   "_jsx_attribute_name", "_jsx_attribute_value", "_jsx_identifier", "_lhs_expression"]

/-- Classes of nodes. -/
def supertypes : List String :=
  ["statement", "declaration", "expression", "primary_expression", "pattern"]

/-- Operators from tightest to loosest, after the update operators. -/
def operatorLevels : List Rank :=
  ["unary_void", "binary_exp", "binary_times", "binary_plus", "binary_shift", "binary_compare",
   "binary_relation", "binary_equality", "bitwise_and", "bitwise_xor", "bitwise_or", "logical_and",
   "logical_or", "ternary"].map .level

/-- Precedence orders. -/
def orders : List (List Rank) := [
  [.level "member", .level "template_call", .level "call", .rule "update_expression"]
    ++ operatorLevels ++ [.rule "sequence_expression", .rule "arrow_function"],
  [.level "assign", .rule "primary_expression"],
  [.level "member", .level "template_call", .level "new", .level "call", .rule "expression"],
  [.level "declare", .level "literal"],
  [.rule "primary_expression", .rule "statement_block", .level "object"],
  [.rule "meta_property", .rule "import"],
  [.rule "import_statement", .rule "import"],
  [.rule "export_statement", .rule "primary_expression"],
  [.rule "lexical_declaration", .rule "primary_expression"]]

/-- Ambiguities that the following text settles. -/
def conflicts : List (List String) := [
  ["primary_expression", "_property_name"],
  ["primary_expression", "_property_name", "arrow_function"],
  ["primary_expression", "arrow_function"],
  ["primary_expression", "method_definition"],
  ["primary_expression", "rest_pattern"],
  ["primary_expression", "pattern"],
  ["primary_expression", "_for_header"],
  ["variable_declarator", "_for_header"],
  ["array", "array_pattern"],
  ["object", "object_pattern"],
  ["assignment_expression", "pattern"],
  ["assignment_expression", "object_assignment_pattern"],
  ["labeled_statement", "_property_name"],
  ["computed_property_name", "array"],
  ["binary_expression", "_initializer"],
  ["class_static_block", "_property_name"]]

/-- The grammar of JavaScript. -/
def grammar : CodeGraph.Grammar where
  name := "javascript"
  rules
  extras
  externals
  inlined
  supertypes
  orders
  word := "identifier"
  conflicts

end CodeGraph.Languages.JavaScript
