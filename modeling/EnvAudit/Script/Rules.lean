import EnvAudit.Script.Lexemes

/-!
# The grammar of scripts

Rules of plain scripts, with markup elements as expressions.  The order of the
rules matters: it numbers the symbols, and of several ways to repair a faulty
text the one with the lowest numbers is tried first.
-/

namespace EnvAudit.Script

open Grammar Grammar.Rule

def openBrace : Rule Leaf := text "\x7b"

def closeBrace : Rule Leaf := text "\x7d"

/-- A name that may stand for a whole line of keywords used as names. -/
def nameOrReserved (label : String) : Rule Leaf :=
  shownAs label (.choice ["identifier", "_reserved_identifier"])

def moduleRules : List (String × Rule Leaf) := [
  ("program", .seq [opt "hash_bang_line", any "statement"]),
  ("hash_bang_line", lexeme interpreterLine),
  ("export_statement", .choice [
    .seq [
      text "export",
      .choice [
        .seq [text "*", "_from_clause"],
        .seq ["namespace_export", "_from_clause"],
        .seq ["export_clause", "_from_clause"],
        "export_clause"],
      "_semicolon"],
    .seq [
      any (.field "decorator" "decorator"),
      text "export",
      .choice [
        .field "declaration" "declaration",
        .seq [
          text "default",
          .choice [
            .field "declaration" "declaration",
            .seq [.field "value" "expression", "_semicolon"]]]]]]),
  ("namespace_export", .seq [text "*", text "as", "_module_export_name"]),
  ("export_clause", .seq [
    openBrace, commaList "export_specifier", opt (text ","), closeBrace]),
  ("export_specifier", .seq [
    .field "name" "_module_export_name",
    opt (.seq [text "as", .field "alias" "_module_export_name"])]),
  ("_module_export_name", .choice ["identifier", "string"]),
  ("declaration", .choice [
    "function_declaration", "generator_function_declaration", "class_declaration",
    "lexical_declaration", "variable_declaration"]),
  ("import", text "import"),
  ("import_statement", .seq [
    text "import",
    .choice [
      .seq ["import_clause", "_from_clause"],
      .field "source" "string"],
    opt "import_attribute",
    "_semicolon"]),
  ("import_clause", .choice [
    "namespace_import",
    "named_imports",
    .seq [
      "identifier",
      opt (.seq [text ",", .choice ["namespace_import", "named_imports"]])]]),
  ("_from_clause", .seq [text "from", .field "source" "string"]),
  ("namespace_import", .seq [text "*", text "as", "identifier"]),
  ("named_imports", .seq [
    openBrace, commaList "import_specifier", opt (text ","), closeBrace]),
  ("import_specifier", .choice [
    .field "name" "identifier",
    .seq [
      .field "name" "_module_export_name",
      text "as",
      .field "alias" "identifier"]]),
  ("import_attribute", .seq [text "with", "object"])]

def statementRules : List (String × Rule Leaf) := [
  ("statement", .choice [
    "export_statement", "import_statement", "debugger_statement", "expression_statement",
    "declaration", "statement_block", "if_statement", "switch_statement", "for_statement",
    "for_in_statement", "while_statement", "do_statement", "try_statement", "with_statement",
    "break_statement", "continue_statement", "return_statement", "throw_statement",
    "empty_statement", "labeled_statement"]),
  ("expression_statement", .seq ["_expressions", "_semicolon"]),
  ("variable_declaration", .seq [
    text "var", commaSeparated "variable_declarator", "_semicolon"]),
  ("lexical_declaration", .seq [
    .field "kind" (texts ["let", "const"]), commaSeparated "variable_declarator", "_semicolon"]),
  ("variable_declarator", .seq [
    .field "name" (.choice ["identifier", "_destructuring_pattern"]), opt "_initializer"]),
  ("statement_block", fromRight (.seq [
    openBrace, any "statement", closeBrace, opt "_automatic_semicolon"])),
  ("else_clause", .seq [text "else", "statement"]),
  ("if_statement", fromRight (.seq [
    text "if",
    .field "condition" "parenthesized_expression",
    .field "consequence" "statement",
    opt (.field "alternative" "else_clause")])),
  ("switch_statement", .seq [
    text "switch",
    .field "value" "parenthesized_expression",
    .field "body" "switch_body"]),
  ("for_statement", .seq [
    text "for",
    text "(",
    .choice [
      .field "initializer" (.choice ["lexical_declaration", "variable_declaration"]),
      .seq [.field "initializer" "_expressions", text ";"],
      .field "initializer" "empty_statement"],
    .field "condition" (.choice [
      .seq ["_expressions", text ";"],
      "empty_statement"]),
    .field "increment" (opt "_expressions"),
    text ")",
    .field "body" "statement"]),
  ("for_in_statement", .seq [
    text "for",
    opt (text "await"),
    "_for_header",
    .field "body" "statement"]),
  ("_for_header", .seq [
    text "(",
    .choice [
      .field "left" (.choice ["_lhs_expression", "parenthesized_expression"]),
      .seq [
        .field "kind" (text "var"),
        .field "left" (.choice ["identifier", "_destructuring_pattern"]),
        opt "_initializer"],
      .seq [
        .field "kind" (texts ["let", "const"]),
        .field "left" (.choice ["identifier", "_destructuring_pattern"]),
        opt "_automatic_semicolon"]],
    .field "operator" (texts ["in", "of"]),
    .field "right" "_expressions",
    text ")"]),
  ("while_statement", .seq [
    text "while",
    .field "condition" "parenthesized_expression",
    .field "body" "statement"]),
  ("do_statement", fromRight (.seq [
    text "do",
    .field "body" "statement",
    text "while",
    .field "condition" "parenthesized_expression",
    opt "_semicolon"])),
  ("try_statement", .seq [
    text "try",
    .field "body" "statement_block",
    opt (.field "handler" "catch_clause"),
    opt (.field "finalizer" "finally_clause")]),
  ("with_statement", .seq [
    text "with",
    .field "object" "parenthesized_expression",
    .field "body" "statement"]),
  ("break_statement", .seq [
    text "break",
    .field "label" (opt (shownAs "statement_identifier" "identifier")),
    "_semicolon"]),
  ("continue_statement", .seq [
    text "continue",
    .field "label" (opt (shownAs "statement_identifier" "identifier")),
    "_semicolon"]),
  ("debugger_statement", .seq [text "debugger", "_semicolon"]),
  ("return_statement", .seq [text "return", opt "_expressions", "_semicolon"]),
  ("throw_statement", .seq [text "throw", "_expressions", "_semicolon"]),
  ("empty_statement", text ";"),
  ("labeled_statement", .dynamic (-1) (.seq [
    .field "label" (nameOrReserved "statement_identifier"),
    text ":",
    .field "body" "statement"])),
  ("switch_body", .seq [
    openBrace, any (.choice ["switch_case", "switch_default"]), closeBrace]),
  ("switch_case", .seq [
    text "case",
    .field "value" "_expressions",
    text ":",
    .field "body" (any "statement")]),
  ("switch_default", .seq [text "default", text ":", .field "body" (any "statement")]),
  ("catch_clause", .seq [
    text "catch",
    opt (.seq [
      text "(",
      .field "parameter" (.choice ["identifier", "_destructuring_pattern"]),
      text ")"]),
    .field "body" "statement_block"]),
  ("finally_clause", .seq [text "finally", .field "body" "statement_block"]),
  ("parenthesized_expression", .seq [text "(", "_expressions", text ")"])]

def expressionRules : List (String × Rule Leaf) := [
  ("_expressions", .choice ["expression", "sequence_expression"]),
  ("expression", .choice [
    "primary_expression", "_jsx_element", "assignment_expression",
    "augmented_assignment_expression", "await_expression", "unary_expression",
    "binary_expression", "ternary_expression", "update_expression", "new_expression",
    "yield_expression"]),
  ("primary_expression", .choice [
    "subscript_expression", "member_expression", "parenthesized_expression", "_identifier",
    shownAs "identifier" "_reserved_identifier", "this", "super", "number", "string",
    "template_string", "regex", "true", "false", "null", "object", "array",
    "function_expression", "arrow_function", "generator_function", "class", "meta_property",
    "call_expression"]),
  ("yield_expression", fromRight (.seq [
    text "yield",
    .choice [.seq [text "*", "expression"], opt "expression"]])),
  ("object", rank "object" (.seq [
    openBrace,
    commaList (opt (.choice [
      "pair", "spread_element", "method_definition",
      nameOrReserved "shorthand_property_identifier"])),
    closeBrace])),
  ("object_pattern", rank "object" (.seq [
    openBrace,
    commaList (opt (.choice [
      "pair_pattern", "rest_pattern", "object_assignment_pattern",
      nameOrReserved "shorthand_property_identifier_pattern"])),
    closeBrace])),
  ("assignment_pattern", .seq [
    .field "left" "pattern", text "=", .field "right" "expression"]),
  ("object_assignment_pattern", .seq [
    .field "left" (.choice [
      shownAs "shorthand_property_identifier_pattern"
        (.choice ["_reserved_identifier", "identifier"]),
      "_destructuring_pattern"]),
    text "=",
    .field "right" "expression"]),
  ("array", .seq [
    text "[", commaList (opt (.choice ["expression", "spread_element"])), text "]"]),
  ("array_pattern", .seq [
    text "[", commaList (opt (.choice ["pattern", "assignment_pattern"])), text "]"])]

def markupRules : List (String × Rule Leaf) := [
  ("_jsx_element", .choice ["jsx_element", "jsx_self_closing_element"]),
  ("jsx_element", .seq [
    .field "open_tag" "jsx_opening_element",
    any "_jsx_child",
    .field "close_tag" "jsx_closing_element"]),
  ("html_character_reference", lexeme markupCharacter),
  ("jsx_expression", .seq [
    openBrace,
    opt (.choice ["expression", "sequence_expression", "spread_element"]),
    closeBrace]),
  ("_jsx_child", .choice [
    "jsx_text", "html_character_reference", "_jsx_element", "jsx_expression"]),
  ("jsx_opening_element", .dynamic (-1) (.seq [
    text "<",
    opt (.seq [
      .field "name" "_jsx_element_name",
      any (.field "attribute" "_jsx_attribute")]),
    text ">"])),
  ("jsx_identifier", lexeme markupName),
  ("_jsx_identifier", .choice [shownAs "identifier" "jsx_identifier", "identifier"]),
  ("nested_identifier", rank "member" (.seq [
    .field "object" (.choice [
      "identifier", shownAs "member_expression" "nested_identifier"]),
    text ".",
    .field "property" (shownAs "property_identifier" "identifier")])),
  ("jsx_namespace_name", .seq ["_jsx_identifier", text ":", "_jsx_identifier"]),
  ("_jsx_element_name", .choice [
    "_jsx_identifier",
    shownAs "member_expression" "nested_identifier",
    "jsx_namespace_name"]),
  ("jsx_closing_element", .seq [
    text "</", opt (.field "name" "_jsx_element_name"), text ">"]),
  ("jsx_self_closing_element", .seq [
    text "<",
    .field "name" "_jsx_element_name",
    any (.field "attribute" "_jsx_attribute"),
    text "/>"]),
  ("_jsx_attribute", .choice ["jsx_attribute", "jsx_expression"]),
  ("_jsx_attribute_name", .choice [
    shownAs "property_identifier" "_jsx_identifier", "jsx_namespace_name"]),
  ("jsx_attribute", .seq [
    "_jsx_attribute_name", opt (.seq [text "=", "_jsx_attribute_value"])]),
  ("_jsx_string", .choice [
    .seq [
      text "\"",
      any (.choice [
        shownAs "string_fragment" "unescaped_double_jsx_string_fragment",
        "html_character_reference"]),
      text "\""],
    .seq [
      text "'",
      any (.choice [
        shownAs "string_fragment" "unescaped_single_jsx_string_fragment",
        "html_character_reference"]),
      text "'"]]),
  ("unescaped_double_jsx_string_fragment",
    lexeme (attributeText "unescaped_double_jsx_string_fragment" "\"")),
  ("unescaped_single_jsx_string_fragment",
    lexeme (attributeText "unescaped_single_jsx_string_fragment" "'")),
  ("_jsx_attribute_value", .choice [
    shownAs "string" "_jsx_string", "jsx_expression", "_jsx_element"])]

def functionRules : List (String × Rule Leaf) := [
  ("class", rank "literal" (.seq [
    any (.field "decorator" "decorator"),
    text "class",
    .field "name" (opt "identifier"),
    opt "class_heritage",
    .field "body" "class_body"])),
  ("class_declaration", rank "declare" (.seq [
    any (.field "decorator" "decorator"),
    text "class",
    .field "name" "identifier",
    opt "class_heritage",
    .field "body" "class_body",
    opt "_automatic_semicolon"])),
  ("class_heritage", .seq [text "extends", "expression"]),
  ("function_expression", rank "literal" (.seq [
    opt (text "async"),
    text "function",
    .field "name" (opt "identifier"),
    "_call_signature",
    .field "body" "statement_block"])),
  ("function_declaration", rankRight "declare" (.seq [
    opt (text "async"),
    text "function",
    .field "name" "identifier",
    "_call_signature",
    .field "body" "statement_block",
    opt "_automatic_semicolon"])),
  ("generator_function", rank "literal" (.seq [
    opt (text "async"),
    text "function",
    text "*",
    .field "name" (opt "identifier"),
    "_call_signature",
    .field "body" "statement_block"])),
  ("generator_function_declaration", rankRight "declare" (.seq [
    opt (text "async"),
    text "function",
    text "*",
    .field "name" "identifier",
    "_call_signature",
    .field "body" "statement_block",
    opt "_automatic_semicolon"])),
  ("arrow_function", .seq [
    opt (text "async"),
    .choice [
      .field "parameter" (.choice [
        shownAs "identifier" "_reserved_identifier", "identifier"]),
      "_call_signature"],
    text "=>",
    .field "body" (.choice ["expression", "statement_block"])]),
  ("_call_signature", .field "parameters" "formal_parameters"),
  ("_formal_parameter", .choice ["pattern", "assignment_pattern"]),
  ("optional_chain", text "?."),
  ("call_expression", .choice [
    rank "call" (.seq [
      .field "function" (.choice ["expression", "import"]),
      .field "arguments" "arguments"]),
    rank "template_call" (.seq [
      .field "function" (.choice ["primary_expression", "new_expression"]),
      .field "arguments" "template_string"]),
    rank "member" (.seq [
      .field "function" "primary_expression",
      .field "optional_chain" "optional_chain",
      .field "arguments" "arguments"])]),
  ("new_expression", rankRight "new" (.seq [
    text "new",
    .field "constructor" (.choice ["primary_expression", "new_expression"]),
    .field "arguments" (opt (.dynamic 1 "arguments"))])),
  ("await_expression", rank "unary_void" (.seq [text "await", "expression"])),
  ("member_expression", rank "member" (.seq [
    .field "object" (.choice ["expression", "primary_expression", "import"]),
    .choice [text ".", .field "optional_chain" "optional_chain"],
    .field "property" (.choice [
      "private_property_identifier",
      shownAs "property_identifier" "identifier"])])),
  ("subscript_expression", rankRight "member" (.seq [
    .field "object" (.choice ["expression", "primary_expression"]),
    opt (.field "optional_chain" "optional_chain"),
    text "[",
    .field "index" "_expressions",
    text "]"])),
  ("_lhs_expression", .choice [
    "member_expression", "subscript_expression", "_identifier",
    shownAs "identifier" "_reserved_identifier", "_destructuring_pattern"])]

def operatorRule (operator rankName : String) (associativity : Associativity) : Rule Leaf :=
  let left : Rule Leaf :=
    if operator == "in" then .choice ["expression", "private_property_identifier"]
    else "expression"
  .ranked (.named rankName) (some associativity) (.seq [
    .field "left" left,
    .field "operator" (text operator),
    .field "right" "expression"])

/-- Two-sided operators with their ranks. -/
def operators : List (String × String × Associativity) := [
  ("&&", "logical_and", .left),
  ("||", "logical_or", .left),
  (">>", "binary_shift", .left),
  (">>>", "binary_shift", .left),
  ("<<", "binary_shift", .left),
  ("&", "bitwise_and", .left),
  ("^", "bitwise_xor", .left),
  ("|", "bitwise_or", .left),
  ("+", "binary_plus", .left),
  ("-", "binary_plus", .left),
  ("*", "binary_times", .left),
  ("/", "binary_times", .left),
  ("%", "binary_times", .left),
  ("**", "binary_exp", .right),
  ("<", "binary_relation", .left),
  ("<=", "binary_relation", .left),
  ("==", "binary_equality", .left),
  ("===", "binary_equality", .left),
  ("!=", "binary_equality", .left),
  ("!==", "binary_equality", .left),
  (">=", "binary_relation", .left),
  (">", "binary_relation", .left),
  ("??", "ternary", .left),
  ("instanceof", "binary_relation", .left),
  ("in", "binary_relation", .left)]

def assignmentOperators : List String := [
  "+=", "-=", "*=", "/=", "%=", "^=", "&=", "|=", ">>=", ">>>=", "<<=", "**=", "&&=",
  "||=", "??="]

def operatorRules : List (String × Rule Leaf) := [
  ("assignment_expression", rankRight "assign" (.seq [
    .field "left" (.choice ["parenthesized_expression", "_lhs_expression"]),
    text "=",
    .field "right" "expression"])),
  ("_augmented_assignment_lhs", .choice [
    "member_expression", "subscript_expression",
    shownAs "identifier" "_reserved_identifier", "identifier", "parenthesized_expression"]),
  ("augmented_assignment_expression", rankRight "assign" (.seq [
    .field "left" "_augmented_assignment_lhs",
    .field "operator" (texts assignmentOperators),
    .field "right" "expression"])),
  ("_initializer", .seq [text "=", .field "value" "expression"]),
  ("_destructuring_pattern", .choice ["object_pattern", "array_pattern"]),
  ("spread_element", .seq [text "...", "expression"]),
  ("ternary_expression", rankRight "ternary" (.seq [
    .field "condition" "expression",
    shownAsText "?" "_ternary_qmark",
    .field "consequence" "expression",
    text ":",
    .field "alternative" "expression"])),
  ("binary_expression", .choice (operators.map fun (operator, rankName, associativity) =>
    operatorRule operator rankName associativity)),
  ("unary_expression", rankLeft "unary_void" (.seq [
    .field "operator" (texts ["!", "~", "-", "+", "typeof", "void", "delete"]),
    .field "argument" "expression"])),
  ("update_expression", fromLeft (.choice [
    .seq [.field "argument" "expression", .field "operator" (texts ["++", "--"])],
    .seq [.field "operator" (texts ["++", "--"]), .field "argument" "expression"]])),
  ("sequence_expression", fromRight (commaSeparated "expression"))]

def literalRules : List (String × Rule Leaf) := [
  ("string", .choice [
    .seq [
      text "\"",
      any (.choice [
        shownAs "string_fragment" "unescaped_double_string_fragment",
        "escape_sequence"]),
      text "\""],
    .seq [
      text "'",
      any (.choice [
        shownAs "string_fragment" "unescaped_single_string_fragment",
        "escape_sequence"]),
      text "'"]]),
  ("unescaped_double_string_fragment",
    lexeme (stringText "unescaped_double_string_fragment" "\"")),
  ("unescaped_single_string_fragment",
    lexeme (stringText "unescaped_single_string_fragment" "'")),
  ("escape_sequence", lexeme escapeSequence),
  ("comment", lexeme comment),
  ("template_string", .seq [
    text "`",
    any (.choice [
      shownAs "string_fragment" "_template_chars",
      "escape_sequence",
      "template_substitution"]),
    text "`"]),
  ("template_substitution", .seq [text "$\x7b", "_expressions", closeBrace]),
  ("regex", .seq [
    text "/",
    .field "pattern" "regex_pattern",
    lexeme regexEnd,
    opt (.field "flags" "regex_flags")]),
  ("regex_pattern", lexeme regexText),
  ("regex_flags", lexeme regexFlags),
  ("number", lexeme number),
  ("_identifier", .choice ["undefined", "identifier"]),
  ("identifier", lexeme identifier),
  ("private_property_identifier", lexeme privateName),
  ("meta_property", .choice [
    .seq [text "new", text ".", text "target"],
    .seq [text "import", text ".", text "meta"]]),
  ("this", text "this"),
  ("super", text "super"),
  ("true", text "true"),
  ("false", text "false"),
  ("null", text "null"),
  ("undefined", text "undefined")]

def memberRules : List (String × Rule Leaf) := [
  ("arguments", .seq [
    text "(", commaList (opt (.choice ["expression", "spread_element"])), text ")"]),
  ("decorator", .seq [
    text "@",
    .choice [
      "identifier",
      shownAs "member_expression" "decorator_member_expression",
      shownAs "call_expression" "decorator_call_expression"]]),
  ("decorator_member_expression", rank "member" (.seq [
    .field "object" (.choice [
      "identifier",
      shownAs "member_expression" "decorator_member_expression"]),
    text ".",
    .field "property" (shownAs "property_identifier" "identifier")])),
  ("decorator_call_expression", rank "call" (.seq [
    .field "function" (.choice [
      "identifier",
      shownAs "member_expression" "decorator_member_expression"]),
    .field "arguments" "arguments"])),
  ("class_body", .seq [
    openBrace,
    any (.choice [
      .seq [.field "member" "method_definition", opt (text ";")],
      .seq [.field "member" "field_definition", "_semicolon"],
      .field "member" "class_static_block",
      text ";"]),
    closeBrace]),
  ("field_definition", .seq [
    any (.field "decorator" "decorator"),
    opt (text "static"),
    .field "property" "_property_name",
    opt "_initializer"]),
  ("formal_parameters", .seq [
    text "(",
    opt (.seq [commaSeparated "_formal_parameter", opt (text ",")]),
    text ")"]),
  ("class_static_block", .seq [
    text "static", opt "_automatic_semicolon", .field "body" "statement_block"]),
  ("pattern", .dynamic (-1) (.choice ["_lhs_expression", "rest_pattern"])),
  ("rest_pattern", fromRight (.seq [text "...", "_lhs_expression"])),
  ("method_definition", .seq [
    any (.field "decorator" "decorator"),
    opt (.choice [text "static", shownAsText "static get" (lexeme staticGet)]),
    opt (text "async"),
    opt (texts ["get", "set", "*"]),
    .field "name" "_property_name",
    .field "parameters" "formal_parameters",
    .field "body" "statement_block"]),
  ("pair", .seq [
    .field "key" "_property_name", text ":", .field "value" "expression"]),
  ("pair_pattern", .seq [
    .field "key" "_property_name",
    text ":",
    .field "value" (.choice ["pattern", "assignment_pattern"])]),
  ("_property_name", .choice [
    nameOrReserved "property_identifier",
    "private_property_identifier", "string", "number", "computed_property_name"]),
  ("computed_property_name", .seq [text "[", "expression", text "]"]),
  ("_reserved_identifier", texts ["get", "set", "async", "static", "export", "let"]),
  ("_semicolon", .choice ["_automatic_semicolon", text ";"])]

def rules : List (String × Rule Leaf) :=
  moduleRules ++ statementRules ++ expressionRules ++ markupRules ++ functionRules ++
    operatorRules ++ literalRules ++ memberRules

def contextTokens : List (ContextToken × Leaf) := [
  (.automaticSemicolon, .rule "_automatic_semicolon"),
  (.templateText, .rule "_template_chars"),
  (.conditionalMark, .rule "_ternary_qmark"),
  (.markupComment, .rule "html_comment"),
  (.logicalOr, .text "||"),
  (.escapeSequence, .rule "escape_sequence"),
  (.regexPattern, .rule "regex_pattern"),
  (.markupText, .rule "jsx_text")]

def named (names : List String) : List Rank :=
  names.map .named

def rankings : List (List Rank) := [
  named ["member", "template_call", "call"] ++ [.rule "update_expression"] ++
    named ["unary_void", "binary_exp", "binary_times", "binary_plus", "binary_shift",
      "binary_compare", "binary_relation", "binary_equality", "bitwise_and", "bitwise_xor",
      "bitwise_or", "logical_and", "logical_or", "ternary"] ++
    [.rule "sequence_expression", .rule "arrow_function"],
  [.named "assign", .rule "primary_expression"],
  named ["member", "template_call", "new", "call"] ++ [.rule "expression"],
  [.named "declare", .named "literal"],
  [.rule "primary_expression", .rule "statement_block", .named "object"],
  [.rule "meta_property", .rule "import"],
  [.rule "import_statement", .rule "import"],
  [.rule "export_statement", .rule "primary_expression"],
  [.rule "lexical_declaration", .rule "primary_expression"]]

/-- The grammar of plain scripts. -/
def grammar : Ruleset where
  rules := rules
  word := "identifier"
  contextTokens := contextTokens
  contextRules := .script
  extras := ["comment", "html_comment"]
  isBlank := isBlank
  inlined := [
    "_call_signature", "_formal_parameter", "_expressions", "_semicolon", "_identifier",
    "_reserved_identifier", "_jsx_attribute", "_jsx_element_name", "_jsx_child",
    "_jsx_element", "_jsx_attribute_name", "_jsx_attribute_value", "_jsx_identifier",
    "_lhs_expression"]
  groups := ["statement", "declaration", "expression", "primary_expression", "pattern"]
  rankings := rankings

end EnvAudit.Script
