import CodeGraph.Grammar.Rule
import CodeGraph.Text.Word

/-! # Python

The grammar of Python. Line structure comes from the scanner as tokens for the end of a statement
and for the begin and end of an indented block. Rules whose names begin with an underscore leave no
node in the tree. -/

namespace CodeGraph.Languages.Python

open CodeGraph.Grammar Rule

/-- Binding strength of the operators. -/
inductive Level where
  | lambda
  | typedParameter
  | conditional
  | parenthesized
  | or
  | and
  | not
  | compare
  | bitwiseOr
  | bitwiseAnd
  | xor
  | shift
  | plus
  | times
  | unary
  | power
  | call

/-- The strength as a number; a larger number binds tighter. -/
def Level.value : Level → Int
  | lambda => -2
  | typedParameter => -1
  | conditional => -1
  | parenthesized => 1
  | or => 10
  | and => 11
  | not => 12
  | compare => 13
  | bitwiseOr => 14
  | bitwiseAnd => 15
  | xor => 16
  | shift => 17
  | plus => 18
  | times => 19
  | unary => 20
  | power => 21
  | call => 22

/-- A rule of the given strength. -/
def at_ (n : Int) (r : Rule) : Rule := .prec (.level n) none r

/-- A rule of the given level. -/
def bind (l : Level) (r : Rule) : Rule := at_ l.value r

/-- A rule of the given level that groups to the left. -/
def bindLeft (l : Level) (r : Rule) : Rule := .prec (.level l.value) (some .left) r

/-- A rule of the given level that groups to the right. -/
def bindRight (l : Level) (r : Rule) : Rule := .prec (.level l.value) (some .right) r

/-- Binary operators with their level; only the power operator groups to the right. -/
def binaryOperators : List (String × Level) :=
  [("+", .plus), ("-", .plus), ("*", .times), ("@", .times), ("/", .times), ("%", .times),
   ("//", .times), ("**", .power), ("|", .bitwiseOr), ("&", .bitwiseAnd), ("^", .xor),
   ("<<", .shift), (">>", .shift)]

/-- One binary operator. -/
def binaryRule (operator : String) (l : Level) : Rule :=
  let body := Rule.seq [field "left" (.ref "primary_expression"), field "operator" (str operator),
    field "right" (.ref "primary_expression")]
  if operator == "**" then bindRight l body else bindLeft l body

/-- Letters and digits of a name after its first. -/
def nameRest : CharSet := CharSet.of "_" ++ ⟨Text.wordRest, false⟩

/-- A name. -/
def name : Pattern := .seq [.one (CharSet.of "_" ++ ⟨Text.wordStart, false⟩), Pattern.any nameRest]

/-- A whole number. -/
def integer : Pattern :=
  let based (marks : String) (digits : CharSet) : Pattern :=
    .seq [.text "0", .one (CharSet.of marks), .plus (.seq [.opt (.text "_"), Pattern.some digits]),
      .opt (.one (CharSet.of "Ll"))]
  .choice [
    based "xX" .hex,
    based "oO" (.range '0' '7'),
    based "bB" (.range '0' '1'),
    .seq [.plus (.seq [Pattern.some .digit, .opt (.text "_")]),
      .choice [.opt (.one (CharSet.of "Ll")), .opt (.one (CharSet.of "jJ"))]]]

/-- A number with a point or an exponent. -/
def decimal : Pattern :=
  let digits := Pattern.plus (.seq [Pattern.some .digit, .opt (.text "_")])
  let exponent := Pattern.seq [.one (CharSet.of "eE"), .opt (.one (CharSet.of "+-")), digits]
  .seq [
    .choice [
      .seq [digits, .text ".", .opt digits, .opt exponent],
      .seq [.opt digits, .text ".", digits, .opt exponent],
      .seq [digits, exponent]],
    .opt (.one (CharSet.of "jJ"))]

/-- An escape inside a string. -/
def escape : Pattern :=
  .seq [.text "\\", .choice [
    .seq [.text "u", Pattern.times 4 (.one .hex)],
    .seq [.text "U", Pattern.times 8 (.one .hex)],
    .seq [.text "x", Pattern.times 2 (.one .hex)],
    .seq [.one .digit, .opt (.one .digit), .opt (.one .digit)],
    .seq [.opt (.text "\r"), .text "\n"],
    .one (CharSet.of "'\"abfrntv\\"),
    .seq [.text "N\x7b", Pattern.some (CharSet.of "\x7d").compl, .text "\x7d"]]]

/-- A backslash at the end of a line. -/
def continuation : Pattern :=
  .seq [.text "\\", .choice [.seq [.opt (.text "\r"), .text "\n"], .text "\x00"]]

/-- Members with commas between them and perhaps one after the last. -/
def listed (r : Rule) : Rule := .seq [commaSep1 r, opt (str ",")]

/-- One member with a comma, or several with commas between them. -/
def several (r : Rule) : Rule :=
  .seq [r, .choice [str ",", .seq [.many1 (.seq [str ",", r]), opt (str ",")]]]

/-- The body of a compound statement, under a field name. -/
def suite (name : String) : Rule := field name (.ref "_suite")

/-- Simple statements. -/
def simpleRules : List (String × Rule) := [
  ("module", many (.ref "_statement")),
  ("_statement", .choice [.ref "_simple_statements", .ref "_compound_statement"]),
  ("_simple_statements", .seq [
    sepBy1 (str ";") (.ref "_simple_statement"), opt (str ";"), .ref "_newline"]),
  ("_simple_statement", .choice [
    .ref "future_import_statement", .ref "import_statement", .ref "import_from_statement",
    .ref "print_statement", .ref "assert_statement", .ref "expression_statement",
    .ref "return_statement", .ref "delete_statement", .ref "raise_statement", .ref "pass_statement",
    .ref "break_statement", .ref "continue_statement", .ref "global_statement",
    .ref "nonlocal_statement", .ref "exec_statement", .ref "type_alias_statement"]),
  ("import_statement", .seq [str "import", .ref "_import_list"]),
  ("import_prefix", .many1 (str ".")),
  ("relative_import", .seq [.ref "import_prefix", opt (.ref "dotted_name")]),
  ("future_import_statement", .seq [
    str "from", str "__future__", str "import",
    .choice [.ref "_import_list", .seq [str "(", .ref "_import_list", str ")"]]]),
  ("import_from_statement", .seq [
    str "from",
    field "module_name" (.choice [.ref "relative_import", .ref "dotted_name"]),
    str "import",
    .choice [
      .ref "wildcard_import", .ref "_import_list", .seq [str "(", .ref "_import_list", str ")"]]]),
  ("_import_list", listed (field "name" (.choice [.ref "dotted_name", .ref "aliased_import"]))),
  ("aliased_import", .seq [
    field "name" (.ref "dotted_name"), str "as", field "alias" (.ref "identifier")]),
  ("wildcard_import", str "*"),
  ("print_statement", .choice [
    at_ 1 (.seq [
      str "print", .ref "chevron", many (.seq [str ",", field "argument" (.ref "expression")]),
      opt (str ",")]),
    at_ (-3) (.weight (-1) (.seq [
      str "print", commaSep1 (field "argument" (.ref "expression")), opt (str ",")]))]),
  ("chevron", .seq [str ">>", .ref "expression"]),
  ("assert_statement", .seq [str "assert", commaSep1 (.ref "expression")]),
  ("expression_statement", .choice [
    .ref "expression", listed (.ref "expression"), .ref "assignment", .ref "augmented_assignment",
    .ref "yield"]),
  ("named_expression", .seq [
    field "name" (.ref "_named_expression_lhs"), str ":=", field "value" (.ref "expression")]),
  ("_named_expression_lhs", .choice [.ref "identifier", .ref "keyword_identifier"]),
  ("return_statement", .seq [str "return", opt (.ref "_expressions")]),
  ("delete_statement", .seq [str "del", .ref "_expressions"]),
  ("_expressions", .choice [.ref "expression", .ref "expression_list"]),
  ("raise_statement", .seq [
    str "raise", opt (.ref "_expressions"),
    opt (.seq [str "from", field "cause" (.ref "expression")])]),
  ("pass_statement", left (str "pass")),
  ("break_statement", left (str "break")),
  ("continue_statement", left (str "continue"))]

/-- Compound statements. -/
def compoundRules : List (String × Rule) := [
  ("_compound_statement", .choice [
    .ref "if_statement", .ref "for_statement", .ref "while_statement", .ref "try_statement",
    .ref "with_statement", .ref "function_definition", .ref "class_definition",
    .ref "decorated_definition", .ref "match_statement"]),
  ("if_statement", .seq [
    str "if", field "condition" (.ref "expression"), str ":", suite "consequence",
    many (field "alternative" (.ref "elif_clause")),
    opt (field "alternative" (.ref "else_clause"))]),
  ("elif_clause", .seq [
    str "elif", field "condition" (.ref "expression"), str ":", suite "consequence"]),
  ("else_clause", .seq [str "else", str ":", suite "body"]),
  ("match_statement", .seq [
    str "match", commaSep1 (field "subject" (.ref "expression")), opt (str ","), str ":",
    field "body" (.named "block" (.ref "_match_block"))]),
  ("_match_block", .choice [
    .seq [.ref "_indent", many (field "alternative" (.ref "case_clause")), .ref "_dedent"],
    .ref "_newline"]),
  ("case_clause", .seq [
    str "case", commaSep1 (.ref "case_pattern"), opt (str ","),
    opt (field "guard" (.ref "if_clause")), str ":", suite "consequence"]),
  ("for_statement", .seq [
    opt (str "async"), str "for", field "left" (.ref "_left_hand_side"), str "in",
    field "right" (.ref "_expressions"), str ":", suite "body",
    field "alternative" (opt (.ref "else_clause"))]),
  ("while_statement", .seq [
    str "while", field "condition" (.ref "expression"), str ":", suite "body",
    opt (field "alternative" (.ref "else_clause"))]),
  ("try_statement", .seq [
    str "try", str ":", suite "body",
    .choice [
      .seq [.many1 (.ref "except_clause"), opt (.ref "else_clause"), opt (.ref "finally_clause")],
      .seq [.many1 (.ref "except_group_clause"), opt (.ref "else_clause"),
        opt (.ref "finally_clause")],
      .ref "finally_clause"]]),
  ("except_clause", .seq [
    str "except",
    opt (.seq [.ref "expression", opt (.seq [.choice [str "as", str ","], .ref "expression"])]),
    str ":", .ref "_suite"]),
  ("except_group_clause", .seq [
    str "except*",
    .seq [.ref "expression", opt (.seq [str "as", .ref "expression"])],
    str ":", .ref "_suite"]),
  ("finally_clause", .seq [str "finally", str ":", .ref "_suite"]),
  ("with_statement", .seq [
    opt (str "async"), str "with", .ref "with_clause", str ":", suite "body"]),
  ("with_clause", .choice [
    listed (.ref "with_item"),
    .seq [str "(", commaSep1 (.ref "with_item"), opt (str ","), str ")"]]),
  ("with_item", .weight 1 (field "value" (.ref "expression"))),
  ("function_definition", .seq [
    opt (str "async"), str "def", field "name" (.ref "identifier"),
    field "type_parameters" (opt (.ref "type_parameter")),
    field "parameters" (.ref "parameters"),
    opt (.seq [str "->", field "return_type" (.ref "type")]),
    str ":", suite "body"]),
  ("parameters", .seq [str "(", opt (.ref "_parameters"), str ")"]),
  ("lambda_parameters", .ref "_parameters"),
  ("list_splat", .seq [str "*", .ref "expression"]),
  ("dictionary_splat", .seq [str "**", .ref "expression"]),
  ("global_statement", .seq [str "global", commaSep1 (.ref "identifier")]),
  ("nonlocal_statement", .seq [str "nonlocal", commaSep1 (.ref "identifier")]),
  ("exec_statement", .seq [
    str "exec", field "code" (.choice [.ref "string", .ref "identifier"]),
    opt (.seq [str "in", commaSep1 (.ref "expression")])]),
  ("type_alias_statement", .weight 1 (.seq [
    str "type", field "left" (.ref "type"), str "=", field "right" (.ref "type")])),
  ("class_definition", .seq [
    str "class", field "name" (.ref "identifier"),
    field "type_parameters" (opt (.ref "type_parameter")),
    field "superclasses" (opt (.ref "argument_list")),
    str ":", suite "body"]),
  ("type_parameter", .seq [str "[", commaSep1 (.ref "type"), opt (str ","), str "]"]),
  ("parenthesized_list_splat", bind .parenthesized (.seq [
    str "(",
    .choice [
      .named "parenthesized_expression" (.ref "parenthesized_list_splat"), .ref "list_splat"],
    str ")"])),
  ("argument_list", .seq [
    str "(",
    opt (commaSep1 (.choice [
      .ref "expression", .ref "list_splat", .ref "dictionary_splat",
      .named "parenthesized_expression" (.ref "parenthesized_list_splat"),
      .ref "keyword_argument"])),
    opt (str ","),
    str ")"]),
  ("decorated_definition", .seq [
    .many1 (.ref "decorator"),
    field "definition" (.choice [.ref "class_definition", .ref "function_definition"])]),
  ("decorator", .seq [str "@", .ref "expression", .ref "_newline"]),
  ("_suite", .choice [
    .named "block" (.ref "_simple_statements"),
    .seq [.ref "_indent", .ref "block"],
    .named "block" (.ref "_newline")]),
  ("block", .seq [many (.ref "_statement"), .ref "_dedent"]),
  ("expression_list", right (several (.ref "expression"))),
  ("dotted_name", at_ 1 (sepBy1 (str ".") (.ref "identifier")))]

/-- Patterns of case clauses, parameters and assignments. -/
def patternRules : List (String × Rule) :=
  let casePatterns := opt (listed (.ref "case_pattern"))
  let numeral := Rule.choice [.ref "integer", .ref "float"]
  let target := Rule.choice [
    .ref "identifier", .ref "keyword_identifier", .ref "subscript", .ref "attribute"]
  [
  ("case_pattern", at_ 1 (.choice [
    .named "as_pattern" (.ref "_as_pattern"), .ref "keyword_pattern", .ref "_simple_pattern"])),
  ("_simple_pattern", at_ 1 (.choice [
    .ref "class_pattern", .ref "splat_pattern", .ref "union_pattern",
    .named "list_pattern" (.ref "_list_pattern"), .named "tuple_pattern" (.ref "_tuple_pattern"),
    .ref "dict_pattern", .ref "string", .ref "concatenated_string", .ref "true", .ref "false",
    .ref "none", .seq [opt (str "-"), numeral], .ref "complex_pattern", .ref "dotted_name",
    str "_"])),
  ("_as_pattern", .seq [.ref "case_pattern", str "as", .ref "identifier"]),
  ("union_pattern", right (.seq [
    .ref "_simple_pattern", .many1 (left (.seq [str "|", .ref "_simple_pattern"]))])),
  ("_list_pattern", .seq [str "[", casePatterns, str "]"]),
  ("_tuple_pattern", .seq [str "(", casePatterns, str ")"]),
  ("dict_pattern", .seq [
    str "\x7b",
    opt (listed (.choice [.ref "_key_value_pattern", .ref "splat_pattern"])),
    str "\x7d"]),
  ("_key_value_pattern", .seq [
    field "key" (.ref "_simple_pattern"), str ":", field "value" (.ref "case_pattern")]),
  ("keyword_pattern", .seq [.ref "identifier", str "=", .ref "_simple_pattern"]),
  ("splat_pattern", at_ 1 (.seq [
    .choice [str "*", str "**"], .choice [.ref "identifier", str "_"]])),
  ("class_pattern", .seq [.ref "dotted_name", str "(", casePatterns, str ")"]),
  ("complex_pattern", at_ 1 (.seq [opt (str "-"), numeral, .choice [str "+", str "-"], numeral])),
  ("_parameters", listed (.ref "parameter")),
  ("_patterns", listed (.ref "pattern")),
  ("parameter", .choice [
    .ref "identifier", .ref "typed_parameter", .ref "default_parameter",
    .ref "typed_default_parameter", .ref "list_splat_pattern", .ref "tuple_pattern",
    .ref "keyword_separator", .ref "positional_separator", .ref "dictionary_splat_pattern"]),
  ("pattern", .choice [
    .ref "identifier", .ref "keyword_identifier", .ref "subscript", .ref "attribute",
    .ref "list_splat_pattern", .ref "tuple_pattern", .ref "list_pattern"]),
  ("tuple_pattern", .seq [str "(", opt (.ref "_patterns"), str ")"]),
  ("list_pattern", .seq [str "[", opt (.ref "_patterns"), str "]"]),
  ("default_parameter", .seq [
    field "name" (.choice [.ref "identifier", .ref "tuple_pattern"]), str "=",
    field "value" (.ref "expression")]),
  ("typed_default_parameter", bind .typedParameter (.seq [
    field "name" (.ref "identifier"), str ":", field "type" (.ref "type"), str "=",
    field "value" (.ref "expression")])),
  ("list_splat_pattern", .seq [str "*", target]),
  ("dictionary_splat_pattern", .seq [str "**", target]),
  ("as_pattern", left (.seq [
    .ref "expression", str "as",
    field "alias" (.named "as_pattern_target" (.ref "expression"))]))]

/-- Operators and other expressions. -/
def expressionRules : List (String × Rule) := [
  ("_expression_within_for_in_clause", .choice [
    .ref "expression", .named "lambda" (.ref "lambda_within_for_in_clause")]),
  ("expression", .choice [
    .ref "comparison_operator", .ref "not_operator", .ref "boolean_operator", .ref "lambda",
    .ref "primary_expression", .ref "conditional_expression", .ref "named_expression",
    .ref "as_pattern"]),
  ("primary_expression", .choice [
    .ref "await", .ref "binary_operator", .ref "identifier", .ref "keyword_identifier",
    .ref "string", .ref "concatenated_string", .ref "integer", .ref "float", .ref "true",
    .ref "false", .ref "none", .ref "unary_operator", .ref "attribute", .ref "subscript",
    .ref "call", .ref "list", .ref "list_comprehension", .ref "dictionary",
    .ref "dictionary_comprehension", .ref "set", .ref "set_comprehension", .ref "tuple",
    .ref "parenthesized_expression", .ref "generator_expression", .ref "ellipsis",
    .named "list_splat" (.ref "list_splat_pattern")]),
  ("not_operator", bind .not (.seq [str "not", field "argument" (.ref "expression")])),
  ("boolean_operator", .choice [
    bindLeft .and (.seq [
      field "left" (.ref "expression"), field "operator" (str "and"),
      field "right" (.ref "expression")]),
    bindLeft .or (.seq [
      field "left" (.ref "expression"), field "operator" (str "or"),
      field "right" (.ref "expression")])]),
  ("binary_operator", .choice (binaryOperators.map fun (o, l) => binaryRule o l)),
  ("unary_operator", bind .unary (.seq [
    field "operator" (.choice [str "+", str "-", str "~"]),
    field "argument" (.ref "primary_expression")])),
  ("_not_in", .seq [str "not", str "in"]),
  ("_is_not", .seq [str "is", str "not"]),
  ("comparison_operator", bindLeft .compare (.seq [
    .ref "primary_expression",
    .many1 (.seq [
      field "operators" (.choice [
        str "<", str "<=", str "==", str "!=", str ">=", str ">", str "<>", str "in",
        .renamed "not in" false (.ref "_not_in"), str "is",
        .renamed "is not" false (.ref "_is_not")]),
      .ref "primary_expression"])])),
  ("lambda", bind .lambda (.seq [
    str "lambda", field "parameters" (opt (.ref "lambda_parameters")), str ":",
    field "body" (.ref "expression")])),
  ("lambda_within_for_in_clause", .seq [
    str "lambda", field "parameters" (opt (.ref "lambda_parameters")), str ":",
    field "body" (.ref "_expression_within_for_in_clause")]),
  ("assignment", .seq [
    field "left" (.ref "_left_hand_side"),
    .choice [
      .seq [str "=", field "right" (.ref "_right_hand_side")],
      .seq [str ":", field "type" (.ref "type")],
      .seq [str ":", field "type" (.ref "type"), str "=", field "right" (.ref "_right_hand_side")]]]),
  ("augmented_assignment", .seq [
    field "left" (.ref "_left_hand_side"),
    field "operator" (.choice (["+=", "-=", "*=", "/=", "@=", "//=", "%=", "**=", ">>=", "<<=",
      "&=", "^=", "|="].map str)),
    field "right" (.ref "_right_hand_side")]),
  ("_left_hand_side", .choice [.ref "pattern", .ref "pattern_list"]),
  ("pattern_list", several (.ref "pattern")),
  ("_right_hand_side", .choice [
    .ref "expression", .ref "expression_list", .ref "assignment", .ref "augmented_assignment",
    .ref "pattern_list", .ref "yield"]),
  ("yield", right (.seq [
    str "yield", .choice [.seq [str "from", .ref "expression"], opt (.ref "_expressions")]])),
  ("attribute", bind .call (.seq [
    field "object" (.ref "primary_expression"), str ".", field "attribute" (.ref "identifier")])),
  ("subscript", bind .call (.seq [
    field "value" (.ref "primary_expression"), str "[",
    commaSep1 (field "subscript" (.choice [.ref "expression", .ref "slice"])), opt (str ","),
    str "]"])),
  ("slice", .seq [
    opt (.ref "expression"), str ":", opt (.ref "expression"),
    opt (.seq [str ":", opt (.ref "expression")])]),
  ("ellipsis", str "..."),
  ("call", bind .call (.seq [
    field "function" (.ref "primary_expression"),
    field "arguments" (.choice [.ref "generator_expression", .ref "argument_list"])])),
  ("typed_parameter", bind .typedParameter (.seq [
    .choice [.ref "identifier", .ref "list_splat_pattern", .ref "dictionary_splat_pattern"],
    str ":", field "type" (.ref "type")])),
  ("type", .choice [
    at_ 1 (.ref "expression"), .ref "splat_type", .ref "generic_type", .ref "union_type",
    .ref "constrained_type", .ref "member_type"]),
  ("splat_type", at_ 1 (.seq [.choice [str "*", str "**"], .ref "identifier"])),
  ("generic_type", at_ 1 (.seq [
    .choice [.ref "identifier", .named "identifier" (str "type")], .ref "type_parameter"])),
  ("union_type", left (.seq [.ref "type", str "|", .ref "type"])),
  ("constrained_type", right (.seq [.ref "type", str ":", .ref "type"])),
  ("member_type", .seq [.ref "type", str ".", .ref "identifier"]),
  ("keyword_argument", .seq [
    field "name" (.choice [.ref "identifier", .ref "keyword_identifier"]), str "=",
    field "value" (.ref "expression")])]

/-- Displays, comprehensions, strings and names. -/
def literalRules : List (String × Rule) := [
  ("list", .seq [str "[", opt (.ref "_collection_elements"), str "]"]),
  ("set", .seq [str "\x7b", .ref "_collection_elements", str "\x7d"]),
  ("tuple", .seq [str "(", opt (.ref "_collection_elements"), str ")"]),
  ("dictionary", .seq [
    str "\x7b", opt (commaSep1 (.choice [.ref "pair", .ref "dictionary_splat"])), opt (str ","),
    str "\x7d"]),
  ("pair", .seq [field "key" (.ref "expression"), str ":", field "value" (.ref "expression")]),
  ("list_comprehension", .seq [
    str "[", field "body" (.ref "expression"), .ref "_comprehension_clauses", str "]"]),
  ("dictionary_comprehension", .seq [
    str "\x7b", field "body" (.ref "pair"), .ref "_comprehension_clauses", str "\x7d"]),
  ("set_comprehension", .seq [
    str "\x7b", field "body" (.ref "expression"), .ref "_comprehension_clauses", str "\x7d"]),
  ("generator_expression", .seq [
    str "(", field "body" (.ref "expression"), .ref "_comprehension_clauses", str ")"]),
  ("_comprehension_clauses", .seq [
    .ref "for_in_clause", many (.choice [.ref "for_in_clause", .ref "if_clause"])]),
  ("parenthesized_expression", bind .parenthesized (.seq [
    str "(", .choice [.ref "expression", .ref "yield"], str ")"])),
  ("_collection_elements", listed (.choice [
    .ref "expression", .ref "yield", .ref "list_splat", .ref "parenthesized_list_splat"])),
  ("for_in_clause", left (.seq [
    opt (str "async"), str "for", field "left" (.ref "_left_hand_side"), str "in",
    field "right" (commaSep1 (.ref "_expression_within_for_in_clause")), opt (str ",")])),
  ("if_clause", .seq [str "if", .ref "expression"]),
  ("conditional_expression", bindRight .conditional (.seq [
    .ref "expression", str "if", .ref "expression", str "else", .ref "expression"])),
  ("concatenated_string", .seq [.ref "string", .many1 (.ref "string")]),
  ("string", .seq [
    .ref "string_start", many (.choice [.ref "interpolation", .ref "string_content"]),
    .ref "string_end"]),
  ("string_content", right (.many1 (.choice [
    .ref "escape_interpolation", .ref "escape_sequence", .ref "_not_escape_sequence",
    .ref "_string_content"]))),
  ("interpolation", .seq [
    str "\x7b",
    field "expression" (.ref "_f_expression"),
    opt (str "="),
    opt (field "type_conversion" (.ref "type_conversion")),
    opt (field "format_specifier" (.ref "format_specifier")),
    str "\x7d"]),
  ("_f_expression", .choice [
    .ref "expression", .ref "expression_list", .ref "pattern_list", .ref "yield"]),
  ("escape_sequence", adjacent escape 1),
  ("_not_escape_sequence", adjacentStr "\\"),
  ("format_specifier", .seq [
    str ":",
    many (.choice [
      .token { pattern := Pattern.some (CharSet.of "\x7b\x7d\n").compl, precedence := 1 },
      .named "format_expression" (.ref "interpolation")])]),
  ("type_conversion", pat (.seq [.text "!", .one (.range 'a' 'z')])),
  ("integer", pat integer),
  ("float", pat decimal),
  ("identifier", pat name),
  ("keyword_identifier", .choice [
    at_ (-3) (.named "identifier" (.choice (["print", "exec", "async", "await"].map str))),
    .named "identifier" (.choice [str "type", str "match"])]),
  ("true", str "True"),
  ("false", str "False"),
  ("none", str "None"),
  ("await", bind .unary (.seq [str "await", .ref "primary_expression"])),
  ("comment", pat (.seq [.text "#", Pattern.any .notNewline])),
  ("line_continuation", pat continuation),
  ("positional_separator", str "/"),
  ("keyword_separator", str "*")]

/-- The grammar of Python. -/
def grammar : CodeGraph.Grammar where
  name := "python"
  rules := simpleRules ++ compoundRules ++ patternRules ++ expressionRules ++ literalRules
  extras := [
    .ref "comment",
    pat (.choice [
      .one (CharSet.space ++ ⟨[(0xFEFF, 0xFEFF), (0x2060, 0x2060), (0x200B, 0x200B)], false⟩),
      .seq [.opt (.text "\r"), .text "\n"]]),
    .ref "line_continuation"]
  externals := [
    .ref "_newline", .ref "_indent", .ref "_dedent", .ref "string_start", .ref "_string_content",
    .ref "escape_interpolation", .ref "string_end", .ref "comment", str "]", str ")", str "\x7d",
    str "except"]
  inlined := [
    "_simple_statement", "_compound_statement", "_suite", "_expressions", "_left_hand_side",
    "keyword_identifier"]
  supertypes := [
    "_simple_statement", "_compound_statement", "expression", "primary_expression", "pattern",
    "parameter"]
  orders := []
  word := "identifier"
  conflicts := [
    ["primary_expression", "pattern"],
    ["primary_expression", "list_splat_pattern"],
    ["tuple", "tuple_pattern"],
    ["list", "list_pattern"],
    ["with_item", "_collection_elements"],
    ["named_expression", "as_pattern"],
    ["print_statement", "primary_expression"],
    ["type_alias_statement", "primary_expression"],
    ["match_statement", "primary_expression"]]

end CodeGraph.Languages.Python
