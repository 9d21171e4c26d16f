import EnvAudit.Script.Rules

/-!
# The grammar of typed scripts

Typed scripts extend plain scripts by type annotations, declarations of types
and modules, and casts.  They come with and without markup; without it, angle
brackets in front of an expression are a cast.
-/

namespace EnvAudit.Script

open Grammar Grammar.Rule

/-- The members of a choice. -/
def membersOf : Rule Leaf → List (Rule Leaf)
  | .choice members => members
  | rule => [rule]

def references (names : List String) : List (Rule Leaf) :=
  names.map fun name => .leaf (.rule name)

/-- Adds alternatives to the rule of the same name in plain scripts. -/
def alsoOf (name : String) (others : List (Rule Leaf)) : Rule Leaf :=
  .choice (membersOf ((rules.lookup name).getD .blank) ++ others)

/-- Replaces the rules that are given anew and appends the others. -/
def extendRules (base extension : List (String × Rule Leaf)) : List (String × Rule Leaf) :=
  base.map (fun (name, body) => (name, (extension.lookup name).getD body)) ++
    extension.filter fun (name, _) => (base.lookup name).isNone

def decoratorField : Rule Leaf :=
  any (.field "decorator" "decorator")

def typeArgumentsField : Rule Leaf :=
  .field "type_arguments" (opt "type_arguments")

def typeParametersField : Rule Leaf :=
  .field "type_parameters" (opt "type_parameters")

def typeField : Rule Leaf :=
  .field "type" (opt "type_annotation")

def bindingName : Rule Leaf :=
  .choice ["identifier", "_destructuring_pattern"]

/-- The words that mark special import and export specifiers. -/
def typeMark : Rule Leaf :=
  opt (texts ["type", "typeof"])

def typedMemberRules (markup : Bool) : List (String × Rule Leaf) := [
  ("public_field_definition", .seq [
    decoratorField,
    opt (.choice [
      .seq [text "declare", opt "accessibility_modifier"],
      .seq ["accessibility_modifier", opt (text "declare")]]),
    .choice [
      .seq [opt (text "static"), opt "override_modifier", opt (text "readonly")],
      .seq [opt (text "abstract"), opt (text "readonly")],
      .seq [opt (text "readonly"), opt (text "abstract")],
      opt (text "accessor")],
    .field "name" "_property_name",
    opt (texts ["?", "!"]),
    typeField,
    opt "_initializer"]),
  ("catch_clause", .seq [
    text "catch",
    opt (.seq [
      text "(",
      .field "parameter" bindingName,
      opt (.field "type" "type_annotation"),
      text ")"]),
    .field "body" "statement_block"]),
  ("call_expression", .choice [
    rank "call" (.seq [
      .field "function" (.choice ["expression", "import"]),
      typeArgumentsField,
      .field "arguments" "arguments"]),
    rank "template_call" (.seq [
      .field "function" (.choice ["primary_expression", "new_expression"]),
      .field "arguments" "template_string"]),
    rank "member" (.seq [
      .field "function" "primary_expression",
      text "?.",
      typeArgumentsField,
      .field "arguments" "arguments"])]),
  ("new_expression", rankRight "new" (.seq [
    text "new",
    .field "constructor" "primary_expression",
    typeArgumentsField,
    .field "arguments" (opt "arguments")])),
  ("assignment_expression", rankRight "assign" (.seq [
    opt (text "using"),
    .field "left" (.choice ["parenthesized_expression", "_lhs_expression"]),
    text "=",
    .field "right" "expression"])),
  ("_augmented_assignment_lhs", alsoOf "_augmented_assignment_lhs" ["non_null_expression"]),
  ("_lhs_expression", alsoOf "_lhs_expression" ["non_null_expression"]),
  ("primary_expression", alsoOf "primary_expression" ["non_null_expression"]),
  ("expression", .choice (
    references ["as_expression", "satisfies_expression", "instantiation_expression",
        "internal_module"] ++
      references (if markup then [] else ["type_assertion"]) ++
      (membersOf ((rules.lookup "expression").getD .blank)).filter fun member =>
        match member with
        | .leaf (.rule "_jsx_element") => markup
        | _ => true)),
  ("_jsx_start_opening_element", .seq [
    text "<",
    opt (.seq [
      .choice [
        .field "name" (.choice ["_jsx_identifier", "jsx_namespace_name"]),
        .seq [
          .field "name" (.choice [
            "identifier",
            shownAs "member_expression" "nested_identifier"]),
          typeArgumentsField]],
      any (.field "attribute" "_jsx_attribute")])]),
  ("jsx_opening_element", .dynamic (-1) (.seq ["_jsx_start_opening_element", text ">"])),
  ("jsx_self_closing_element", .dynamic (-1) (.seq [
    "_jsx_start_opening_element", text "/>"])),
  ("export_specifier", .seq [typeMark, (rules.lookup "export_specifier").getD .blank]),
  ("_import_identifier", .choice ["identifier", shownAs "identifier" (text "type")]),
  ("import_specifier", .seq [
    typeMark,
    .choice [
      .field "name" "_import_identifier",
      .seq [
        .field "name" (.choice ["_module_export_name", shownAs "identifier" (text "type")]),
        text "as",
        .field "alias" "_import_identifier"]]]),
  ("import_clause", .choice [
    "namespace_import",
    "named_imports",
    .seq [
      "_import_identifier",
      opt (.seq [text ",", .choice ["namespace_import", "named_imports"]])]]),
  ("import_statement", .seq [
    text "import",
    typeMark,
    .choice [
      .seq ["import_clause", "_from_clause"],
      "import_require_clause",
      .field "source" "string"],
    opt "import_attribute",
    "_semicolon"]),
  ("import_attribute", .seq [texts ["with", "assert"], "object"]),
  ("export_statement", alsoOf "export_statement" [
    .seq [
      text "export", text "type", "export_clause", opt "_from_clause", "_semicolon"],
    .seq [text "export", text "=", "expression", "_semicolon"],
    .seq [text "export", text "as", text "namespace", "identifier", "_semicolon"]]),
  ("non_null_expression", rankLeft "unary" (.seq ["expression", text "!"])),
  ("variable_declarator", .choice [
    .seq [.field "name" bindingName, typeField, opt "_initializer"],
    rank "declare" (.seq [
      .field "name" "identifier", text "!", .field "type" "type_annotation"])]),
  ("method_signature", .seq [
    opt "accessibility_modifier",
    opt (text "static"),
    opt "override_modifier",
    opt (text "readonly"),
    opt (text "async"),
    opt (texts ["get", "set", "*"]),
    .field "name" "_property_name",
    opt (text "?"),
    "_call_signature"]),
  ("abstract_method_signature", .seq [
    opt "accessibility_modifier",
    text "abstract",
    opt "override_modifier",
    opt (texts ["get", "set", "*"]),
    .field "name" "_property_name",
    opt (text "?"),
    "_call_signature"]),
  ("parenthesized_expression", .seq [
    text "(",
    .choice [.seq ["expression", typeField], "sequence_expression"],
    text ")"]),
  ("_formal_parameter", .choice ["required_parameter", "optional_parameter"]),
  ("function_signature", .seq [
    opt (text "async"),
    text "function",
    .field "name" "identifier",
    "_call_signature",
    .choice ["_semicolon", "_function_signature_automatic_semicolon"]]),
  ("decorator", .seq [
    text "@",
    .choice [
      "identifier",
      shownAs "member_expression" "decorator_member_expression",
      shownAs "call_expression" "decorator_call_expression",
      shownAs "parenthesized_expression" "decorator_parenthesized_expression"]]),
  ("decorator_call_expression", rank "call" (.seq [
    .field "function" (.choice [
      "identifier",
      shownAs "member_expression" "decorator_member_expression"]),
    opt (.field "type_arguments" "type_arguments"),
    .field "arguments" "arguments"])),
  ("decorator_parenthesized_expression", .seq [
    text "(",
    .choice [
      "identifier",
      shownAs "member_expression" "decorator_member_expression",
      shownAs "call_expression" "decorator_call_expression"],
    text ")"]),
  ("class_body", .seq [
    openBrace,
    any (.choice [
      .seq [decoratorField, "method_definition", opt "_semicolon"],
      .seq [
        "method_signature",
        .choice ["_function_signature_automatic_semicolon", text ","]],
      "class_static_block",
      .seq [
        .choice [
          "abstract_method_signature", "index_signature", "method_signature",
          "public_field_definition"],
        .choice ["_semicolon", text ","]],
      text ";"]),
    closeBrace]),
  ("method_definition", fromLeft (.seq [
    opt "accessibility_modifier",
    opt (text "static"),
    opt "override_modifier",
    opt (text "readonly"),
    opt (text "async"),
    opt (texts ["get", "set", "*"]),
    .field "name" "_property_name",
    opt (text "?"),
    "_call_signature",
    .field "body" "statement_block"]))]

def typedDeclarationRules : List (String × Rule Leaf) := [
  ("declaration", alsoOf "declaration" [
    "function_signature", "abstract_class_declaration", "module",
    rank "declare" "internal_module", "type_alias_declaration", "enum_declaration",
    "interface_declaration", "import_alias", "ambient_declaration"]),
  ("type_assertion", rankLeft "unary" (.seq ["type_arguments", "expression"])),
  ("as_expression", rankLeft "binary" (.seq [
    "expression", text "as", .choice [text "const", "type"]])),
  ("satisfies_expression", rankLeft "binary" (.seq ["expression", text "satisfies", "type"])),
  ("instantiation_expression", rank "instantiation" (.seq [
    "expression", .field "type_arguments" "type_arguments"])),
  ("class_heritage", .choice [
    .seq ["extends_clause", opt "implements_clause"],
    "implements_clause"]),
  ("import_require_clause", .seq [
    "identifier", text "=", text "require", text "(", .field "source" "string", text ")"]),
  ("extends_clause", .seq [text "extends", commaSeparated "_extends_clause_single"]),
  ("_extends_clause_single", rank "extends" (.seq [
    .field "value" "expression", typeArgumentsField])),
  ("implements_clause", .seq [text "implements", commaSeparated "type"]),
  ("ambient_declaration", .seq [
    text "declare",
    .choice [
      "declaration",
      .seq [text "global", "statement_block"],
      .seq [
        text "module", text ".", shownAs "property_identifier" "identifier", text ":", "type",
        "_semicolon"]]]),
  ("class", rank "literal" (.seq [
    decoratorField,
    text "class",
    .field "name" (opt "_type_identifier"),
    typeParametersField,
    opt "class_heritage",
    .field "body" "class_body"])),
  ("abstract_class_declaration", rank "declare" (.seq [
    decoratorField,
    text "abstract",
    text "class",
    .field "name" "_type_identifier",
    typeParametersField,
    opt "class_heritage",
    .field "body" "class_body"])),
  ("class_declaration", rankLeft "declare" (.seq [
    decoratorField,
    text "class",
    .field "name" "_type_identifier",
    typeParametersField,
    opt "class_heritage",
    .field "body" "class_body",
    opt "_automatic_semicolon"])),
  ("module", .seq [text "module", "_module"]),
  ("internal_module", .seq [text "namespace", "_module"]),
  ("_module", fromRight (.seq [
    .field "name" (.choice ["string", "identifier", "nested_identifier"]),
    .field "body" (opt "statement_block")])),
  ("import_alias", .seq [
    text "import", "identifier", text "=", .choice ["identifier", "nested_identifier"],
    "_semicolon"]),
  ("nested_type_identifier", rank "member" (.seq [
    .field "module" (.choice ["identifier", "nested_identifier"]),
    text ".",
    .field "name" "_type_identifier"])),
  ("interface_declaration", .seq [
    text "interface",
    .field "name" "_type_identifier",
    typeParametersField,
    opt "extends_type_clause",
    .field "body" (shownAs "interface_body" "object_type")]),
  ("extends_type_clause", .seq [
    text "extends",
    commaSeparated (.field "type" (.choice [
      "_type_identifier", "nested_type_identifier", "generic_type"]))]),
  ("enum_declaration", .seq [
    opt (text "const"),
    text "enum",
    .field "name" "identifier",
    .field "body" "enum_body"]),
  ("enum_body", .seq [
    openBrace,
    opt (.seq [
      commaSeparated (.choice [.field "name" "_property_name", "enum_assignment"]),
      opt (text ",")]),
    closeBrace]),
  ("enum_assignment", .seq [.field "name" "_property_name", "_initializer"]),
  ("type_alias_declaration", .seq [
    text "type",
    .field "name" "_type_identifier",
    typeParametersField,
    text "=",
    .field "value" "type",
    "_semicolon"]),
  ("accessibility_modifier", texts ["public", "private", "protected"]),
  ("override_modifier", text "override"),
  ("required_parameter", .seq ["_parameter_name", typeField, opt "_initializer"]),
  ("optional_parameter", .seq ["_parameter_name", text "?", typeField, opt "_initializer"]),
  ("_parameter_name", .seq [
    decoratorField,
    opt "accessibility_modifier",
    opt "override_modifier",
    opt (text "readonly"),
    .field "pattern" (.choice ["pattern", "this"])])]

/-- The objects that a property may be taken of in a type query. -/
def queriedObject : Rule Leaf :=
  .choice [
    "identifier", "this",
    shownAs "subscript_expression" "_type_query_subscript_expression",
    shownAs "member_expression" "_type_query_member_expression",
    shownAs "call_expression" "_type_query_call_expression"]

def queriedFunction : Rule Leaf :=
  .choice [
    "import", "identifier",
    shownAs "member_expression" "_type_query_member_expression",
    shownAs "subscript_expression" "_type_query_subscript_expression"]

def propertyName : Rule Leaf :=
  .choice ["private_property_identifier", shownAs "property_identifier" "identifier"]

def annotationRules : List (String × Rule Leaf) := [
  ("omitting_type_annotation", .seq [text "-?:", "type"]),
  ("adding_type_annotation", .seq [text "+?:", "type"]),
  ("opting_type_annotation", .seq [text "?:", "type"]),
  ("type_annotation", .seq [text ":", "type"]),
  ("_type_query_member_expression_in_type_annotation", .seq [
    .field "object" (.choice [
      "import",
      shownAs "member_expression" "_type_query_member_expression_in_type_annotation",
      shownAs "call_expression" "_type_query_call_expression_in_type_annotation"]),
    text ".",
    .field "property" propertyName]),
  ("_type_query_call_expression_in_type_annotation", .seq [
    .field "function" (.choice [
      "import",
      shownAs "member_expression" "_type_query_member_expression_in_type_annotation"]),
    .field "arguments" "arguments"]),
  ("asserts", .seq [text "asserts", .choice ["type_predicate", "identifier", "this"]]),
  ("asserts_annotation", .seq [.seq [text ":", "asserts"]]),
  ("type", .choice [
    "primary_type", "function_type", "readonly_type", "constructor_type", "infer_type",
    .ranked (.level (-1)) none
      (shownAs "member_expression" "_type_query_member_expression_in_type_annotation"),
    .ranked (.level (-1)) none
      (shownAs "call_expression" "_type_query_call_expression_in_type_annotation")]),
  ("tuple_parameter", .seq [
    .field "name" (.choice ["identifier", "rest_pattern"]),
    .field "type" "type_annotation"]),
  ("optional_tuple_parameter", .seq [
    .field "name" "identifier", text "?", .field "type" "type_annotation"]),
  ("optional_type", .seq ["type", text "?"]),
  ("rest_type", .seq [text "...", "type"]),
  ("_tuple_type_member", .choice [
    shownAs "required_parameter" "tuple_parameter",
    shownAs "optional_parameter" "optional_tuple_parameter",
    "optional_type", "rest_type", "type"]),
  ("constructor_type", fromLeft (.seq [
    opt (text "abstract"),
    text "new",
    typeParametersField,
    .field "parameters" "formal_parameters",
    text "=>",
    .field "type" "type"])),
  ("primary_type", .choice [
    "parenthesized_type", "predefined_type", "_type_identifier", "nested_type_identifier",
    "generic_type", "object_type", "array_type", "tuple_type", "flow_maybe_type",
    "type_query", "index_type_query", shownAs "this_type" "this", "existential_type",
    "literal_type", "lookup_type", "conditional_type", "template_literal_type",
    "intersection_type", "union_type", text "const"]),
  ("template_type", .seq [
    text "$\x7b", .choice ["primary_type", "infer_type"], closeBrace]),
  ("template_literal_type", .seq [
    text "`",
    any (.choice [shownAs "string_fragment" "_template_chars", "template_type"]),
    text "`"]),
  ("infer_type", fromRight (.seq [
    text "infer", "_type_identifier", opt (.seq [text "extends", "type"])])),
  ("conditional_type", fromRight (.seq [
    .field "left" "type",
    text "extends",
    .field "right" "type",
    text "?",
    .field "consequence" "type",
    text ":",
    .field "alternative" "type"])),
  ("generic_type", rank "call" (.seq [
    .field "name" (.choice ["_type_identifier", "nested_type_identifier"]),
    .field "type_arguments" "type_arguments"])),
  ("type_predicate", .seq [
    .field "name" (.choice ["identifier", "this", shownAs "identifier" "predefined_type"]),
    text "is",
    .field "type" "type"]),
  ("type_predicate_annotation", .seq [.seq [text ":", "type_predicate"]]),
  ("_type_query_member_expression", .seq [
    .field "object" queriedObject,
    texts [".", "?."],
    .field "property" propertyName]),
  ("_type_query_subscript_expression", .seq [
    .field "object" queriedObject,
    opt (text "?."),
    text "[",
    .field "index" (.choice ["predefined_type", "string", "number"]),
    text "]"]),
  ("_type_query_call_expression", .seq [
    .field "function" queriedFunction, .field "arguments" "arguments"]),
  ("_type_query_instantiation_expression", .seq [
    .field "function" queriedFunction, .field "type_arguments" "type_arguments"]),
  ("type_query", fromRight (.seq [
    text "typeof",
    .choice [
      shownAs "subscript_expression" "_type_query_subscript_expression",
      shownAs "member_expression" "_type_query_member_expression",
      shownAs "call_expression" "_type_query_call_expression",
      shownAs "instantiation_expression" "_type_query_instantiation_expression",
      "identifier", "this"]])),
  ("index_type_query", .seq [text "keyof", "primary_type"]),
  ("lookup_type", .seq ["primary_type", text "[", "type", text "]"]),
  ("mapped_type_clause", .seq [
    .field "name" "_type_identifier",
    text "in",
    .field "type" "type",
    .field "alias" (opt (.seq [text "as", "type"]))]),
  ("literal_type", .choice [
    shownAs "unary_expression" "_number", "number", "string", "true", "false", "null",
    "undefined"]),
  ("_number", .ranked (.level 1) (some .left) (.seq [
    .field "operator" (texts ["-", "+"]), .field "argument" "number"])),
  ("existential_type", text "*"),
  ("flow_maybe_type", fromRight (.seq [text "?", "primary_type"])),
  ("parenthesized_type", .seq [text "(", "type", text ")"]),
  ("predefined_type", .choice [
    text "any", text "number", text "boolean", text "string", text "symbol",
    shownAsText "unique symbol" (.seq [text "unique", text "symbol"]),
    text "void", text "unknown", text "never", text "object"])]

def typeRules : List (String × Rule Leaf) := [
  ("type_arguments", .seq [text "<", commaSeparated "type", opt (text ","), text ">"]),
  ("object_type", .seq [
    .choice [openBrace, text "\x7b|"],
    opt (.seq [
      opt (texts [",", ";"]),
      separated (.choice [text ",", "_semicolon"]) (.choice [
        "export_statement", "property_signature", "call_signature", "construct_signature",
        "index_signature", "method_signature"]),
      opt (.choice [text ",", "_semicolon"])]),
    .choice [closeBrace, text "|\x7d"]]),
  ("call_signature", "_call_signature"),
  ("property_signature", .seq [
    opt "accessibility_modifier",
    opt (text "static"),
    opt "override_modifier",
    opt (text "readonly"),
    .field "name" "_property_name",
    opt (text "?"),
    typeField]),
  ("_call_signature", .seq [
    typeParametersField,
    .field "parameters" "formal_parameters",
    .field "return_type" (opt (.choice [
      "type_annotation", "asserts_annotation", "type_predicate_annotation"]))]),
  ("type_parameters", .seq [
    text "<", commaSeparated "type_parameter", opt (text ","), text ">"]),
  ("type_parameter", .seq [
    opt (text "const"),
    .field "name" "_type_identifier",
    .field "constraint" (opt "constraint"),
    .field "value" (opt "default_type")]),
  ("default_type", .seq [text "=", "type"]),
  ("constraint", .seq [texts ["extends", ":"], "type"]),
  ("construct_signature", .seq [
    opt (text "abstract"),
    text "new",
    typeParametersField,
    .field "parameters" "formal_parameters",
    typeField]),
  ("index_signature", .seq [
    opt (.seq [.field "sign" (opt (texts ["-", "+"])), text "readonly"]),
    text "[",
    .choice [
      .seq [
        .field "name" (.choice ["identifier", shownAs "identifier" "_reserved_identifier"]),
        text ":",
        .field "index_type" "type"],
      "mapped_type_clause"],
    text "]",
    .field "type" (.choice [
      "type_annotation", "omitting_type_annotation", "adding_type_annotation",
      "opting_type_annotation"])]),
  ("array_type", .seq ["primary_type", text "[", text "]"]),
  ("tuple_type", .seq [
    text "[", commaList "_tuple_type_member", opt (text ","), text "]"]),
  ("readonly_type", .seq [text "readonly", "type"]),
  ("union_type", fromLeft (.seq [opt "type", text "|", "type"])),
  ("intersection_type", fromLeft (.seq [opt "type", text "&", "type"])),
  ("function_type", fromLeft (.seq [
    typeParametersField,
    .field "parameters" "formal_parameters",
    text "=>",
    .field "return_type" (.choice ["type", "asserts", "type_predicate"])])),
  ("_type_identifier", shownAs "type_identifier" "identifier"),
  ("_reserved_identifier", .choice (
    ["declare", "namespace", "type", "public", "private", "protected", "override",
      "readonly", "module", "any", "number", "boolean", "string", "symbol", "export",
      "object", "new"].map text ++
    membersOf ((rules.lookup "_reserved_identifier").getD .blank)))]

def typedRules (markup : Bool) : List (String × Rule Leaf) :=
  extendRules rules
    (typedMemberRules markup ++ typedDeclarationRules ++ annotationRules ++ typeRules)

def typedRankings : List (List Rank) :=
  let ofRules (names : List String) : List Rank := names.map .rule
  rankings ++ [
    named ["call", "instantiation", "unary", "binary"] ++
      ofRules ["await_expression", "arrow_function"],
    named ["extends", "instantiation"],
    ofRules ["intersection_type", "union_type", "conditional_type", "function_type"] ++
      [.named "binary"] ++ ofRules ["type_predicate", "readonly_type"],
    ofRules ["mapped_type_clause", "primary_expression"],
    ofRules ["accessibility_modifier", "primary_expression"],
    [.named "unary_void", .rule "expression"],
    ofRules ["extends_clause", "primary_expression"],
    named ["unary", "assign"],
    [.named "declare", .rule "expression"],
    ofRules ["predefined_type", "unary_expression"],
    ofRules ["type", "flow_maybe_type"],
    ofRules ["tuple_type", "array_type", "pattern", "type"],
    ofRules ["readonly_type", "pattern"],
    ofRules ["readonly_type", "primary_expression"],
    ofRules ["type_query", "subscript_expression", "expression"],
    ofRules ["type_query", "_type_query_subscript_expression"],
    ofRules ["nested_type_identifier", "generic_type", "primary_type", "lookup_type",
      "index_type_query", "type"],
    ofRules ["as_expression", "satisfies_expression", "primary_type"],
    ofRules ["_type_query_member_expression", "member_expression"],
    ofRules ["member_expression", "_type_query_member_expression_in_type_annotation"],
    ofRules ["_type_query_member_expression", "primary_expression"],
    ofRules ["_type_query_subscript_expression", "subscript_expression"],
    ofRules ["_type_query_subscript_expression", "primary_expression"],
    ofRules ["_type_query_call_expression", "primary_expression"],
    ofRules ["_type_query_instantiation_expression", "primary_expression"],
    ofRules ["type_query", "primary_expression"],
    ofRules ["override_modifier", "primary_expression"],
    ofRules ["decorator_call_expression", "decorator"],
    ofRules ["literal_type", "pattern"],
    ofRules ["predefined_type", "pattern"],
    ofRules ["call_expression", "_type_query_call_expression"],
    ofRules ["call_expression", "_type_query_call_expression_in_type_annotation"],
    ofRules ["new_expression", "primary_expression"],
    ofRules ["meta_property", "primary_expression"],
    ofRules ["construct_signature", "_property_name"]]

/-- The grammar of typed scripts, with or without markup. -/
def typedGrammar (markup : Bool) : Ruleset where
  rules := typedRules markup
  word := "identifier"
  contextTokens := contextTokens ++
    [(.signatureSemicolon, .rule "_function_signature_automatic_semicolon")]
  contextRules := .typedScript
  extras := grammar.extras
  isBlank := isBlank
  inlined := grammar.inlined.filter (fun name =>
      name != "_call_signature" && name != "_formal_parameter") ++
    ["_type_identifier", "_jsx_start_opening_element"]
  groups := grammar.groups ++ ["type", "primary_type"]
  rankings := typedRankings

end EnvAudit.Script
