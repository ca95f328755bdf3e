import ModuleAtlas.TypeScript.Names

/-!
# Types

The rules of types, signatures, class members with types, and the declarations that introduce them.
-/
namespace ModuleAtlas.TypeScript

open Grammar Grammar.Rule Names

def types : List (String × Rule) :=
  [("public_field_definition",
    decorators ++
    opt ("declare" ++ opt (ref "accessibility_modifier") |||
         ref "accessibility_modifier" ++ opt "declare") ++
    (opt "static" ++ opt (ref "override_modifier") ++ opt "readonly" |||
     opt "abstract" ++ opt "readonly" ||| opt "readonly" ++ opt "abstract" ||| opt "accessor") ++
    field "name" (ref "_property_name") ++ opt (words ["?", "!"]) ++ typeAnnotation ++
    opt (ref "_initializer")),
  ("_jsx_start_opening_element",
    "<" ++
    opt ((field "name" (ref "_jsx_identifier" ||| ref "jsx_namespace_name") |||
          field "name" (identifier ||| shown "member_expression" (ref "nested_identifier")) ++
          typeArguments) ++ many (field "attribute" (ref "_jsx_attribute")))),
  ("_import_identifier", identifier ||| shown "identifier" "type"),
  ("non_null_expression", leftBinds "unary" (expression ++ "!")),
  ("method_signature",
    opt (ref "accessibility_modifier") ++ opt "static" ++ opt (ref "override_modifier") ++
    opt "readonly" ++ opt "async" ++ opt (words ["get", "set", "*"]) ++
    field "name" (ref "_property_name") ++ opt "?" ++ ref "_call_signature"),
  ("abstract_method_signature",
    opt (ref "accessibility_modifier") ++ "abstract" ++ opt (ref "override_modifier") ++
    opt (words ["get", "set", "*"]) ++ field "name" (ref "_property_name") ++ opt "?" ++
    ref "_call_signature"),
  ("function_signature",
    opt "async" ++ "function" ++ field "name" identifier ++ ref "_call_signature" ++
    (semicolon ||| ref "_function_signature_automatic_semicolon")),
  ("decorator_parenthesized_expression",
    "(" ++ (identifier ||| decoratorMember ||| decoratorCall) ++ ")"),
  ("type_assertion", leftBinds "unary" (ref "type_arguments" ++ expression)),
  ("as_expression", leftBinds "binary" (expression ++ "as" ++ ("const" ||| type))),
  ("satisfies_expression", leftBinds "binary" (expression ++ "satisfies" ++ type)),
  ("instantiation_expression",
    binds "instantiation" (expression ++ field "type_arguments" (ref "type_arguments"))),
  ("import_require_clause",
    identifier ++ "=" ++ "require" ++ "(" ++ field "source" (ref "string") ++ ")"),
  ("extends_clause", "extends" ++ sepBy1 (ref "_extends_clause_single") ","),
  ("_extends_clause_single", binds "extends" (field "value" expression ++ typeArguments)),
  ("implements_clause", "implements" ++ sepBy1 type ","),
  ("ambient_declaration",
    "declare" ++
    (ref "declaration" ||| "global" ++ ref "statement_block" |||
     "module" ++ "." ++ property ++ ":" ++ type ++ semicolon)),
  ("abstract_class_declaration",
    binds "declare" <|
      decorators ++ "abstract" ++ "class" ++ field "name" (ref "_type_identifier") ++
      typeParameters ++ opt (ref "class_heritage") ++ field "body" (ref "class_body")),
  ("module", "module" ++ ref "_module"),
  ("internal_module", "namespace" ++ ref "_module"),
  ("_module",
    right <|
      field "name" (ref "string" ||| identifier ||| ref "nested_identifier") ++
      field "body" (opt (ref "statement_block"))),
  ("import_alias",
    "import" ++ identifier ++ "=" ++ (identifier ||| ref "nested_identifier") ++ semicolon),
  ("nested_type_identifier",
    binds "member" <|
      field "module" (identifier ||| ref "nested_identifier") ++ "." ++
      field "name" (ref "_type_identifier")),
  ("interface_declaration",
    "interface" ++ field "name" (ref "_type_identifier") ++ typeParameters ++
    opt (ref "extends_type_clause") ++ field "body" (shown "interface_body" (ref "object_type"))),
  ("extends_type_clause",
    "extends" ++
    sepBy1 (field "type" (ref "_type_identifier" ||| ref "nested_type_identifier" |||
                          ref "generic_type")) ","),
  ("enum_declaration",
    opt "const" ++ "enum" ++ field "name" identifier ++ field "body" (ref "enum_body")),
  ("enum_body",
    "\x7b" ++
    opt (sepBy1 (field "name" (ref "_property_name") ||| ref "enum_assignment") "," ++ opt ",") ++
    "\x7d"),
  ("enum_assignment", field "name" (ref "_property_name") ++ ref "_initializer"),
  ("type_alias_declaration",
    "type" ++ field "name" (ref "_type_identifier") ++ typeParameters ++ "=" ++
    field "value" type ++ semicolon),
  ("accessibility_modifier", words ["public", "private", "protected"]),
  ("override_modifier", literal "override"),
  ("required_parameter", ref "_parameter_name" ++ typeAnnotation ++ opt (ref "_initializer")),
  ("optional_parameter",
    ref "_parameter_name" ++ "?" ++ typeAnnotation ++ opt (ref "_initializer")),
  ("_parameter_name",
    decorators ++ opt (ref "accessibility_modifier") ++ opt (ref "override_modifier") ++
    opt "readonly" ++ field "pattern" (ref "pattern" ||| ref "this")),
  ("omitting_type_annotation", "-?:" ++ type),
  ("adding_type_annotation", "+?:" ++ type),
  ("opting_type_annotation", "?:" ++ type),
  ("type_annotation", ":" ++ (type ||| annotationMember ||| annotationCall)),
  ("_type_query_member_expression_in_type_annotation",
    field "object" (ref "import" ||| annotationMember ||| annotationCall) ++ "." ++
    field "property" (ref "private_property_identifier" ||| property)),
  ("_type_query_call_expression_in_type_annotation",
    field "function" (ref "import" ||| annotationMember) ++ arguments),
  ("asserts", "asserts" ++ (ref "type_predicate" ||| identifier ||| ref "this")),
  ("asserts_annotation", (":" ++ ref "asserts")),
  ("type",
    ref "primary_type" ||| ref "function_type" ||| ref "readonly_type" |||
    ref "constructor_type" ||| ref "infer_type" ||| level (-1) annotationMember |||
    level (-1) annotationCall),
  ("tuple_parameter",
    field "name" (identifier ||| ref "rest_pattern") ++ field "type" (ref "type_annotation")),
  ("optional_tuple_parameter",
    field "name" identifier ++ "?" ++ field "type" (ref "type_annotation")),
  ("optional_type", type ++ "?"),
  ("rest_type", "..." ++ type),
  ("_tuple_type_member",
    shown "required_parameter" (ref "tuple_parameter") |||
    shown "optional_parameter" (ref "optional_tuple_parameter") ||| ref "optional_type" |||
    ref "rest_type" ||| type),
  ("constructor_type",
    left <|
      opt "abstract" ++ "new" ++ typeParameters ++ field "parameters" (ref "formal_parameters") ++
      "=>" ++ field "type" type),
  ("primary_type",
    ref "parenthesized_type" ||| ref "predefined_type" ||| ref "_type_identifier" |||
    ref "nested_type_identifier" ||| ref "generic_type" ||| ref "object_type" |||
    ref "array_type" ||| ref "tuple_type" ||| ref "flow_maybe_type" ||| ref "type_query" |||
    ref "index_type_query" ||| shown "this_type" (ref "this") ||| ref "existential_type" |||
    ref "literal_type" ||| ref "lookup_type" ||| ref "conditional_type" |||
    ref "template_literal_type" ||| ref "intersection_type" ||| ref "union_type" ||| "const"),
  ("template_type", "$\x7b" ++ (ref "primary_type" ||| ref "infer_type") ++ "\x7d"),
  ("template_literal_type",
    "\x60" ++ many (shown "string_fragment" (ref "_template_chars") ||| ref "template_type") ++
    "\x60"),
  ("infer_type", right ("infer" ++ ref "_type_identifier" ++ opt ("extends" ++ type))),
  ("conditional_type",
    right <|
      field "left" type ++ "extends" ++ field "right" type ++ "?" ++ field "consequence" type ++
      ":" ++ field "alternative" type),
  ("generic_type",
    binds "call" <|
      field "name" (ref "_type_identifier" ||| ref "nested_type_identifier") ++
      field "type_arguments" (ref "type_arguments")),
  ("type_predicate",
    field "name" (identifier ||| ref "this" ||| shown "identifier" (ref "predefined_type")) ++
    "is" ++ field "type" type),
  ("type_predicate_annotation", (":" ++ ref "type_predicate")),
  ("_type_query_member_expression",
    field "object" (identifier ||| ref "this" ||| querySubscript ||| queryMember ||| queryCall) ++
    words [".", "?."] ++ field "property" (ref "private_property_identifier" ||| property)),
  ("_type_query_subscript_expression",
    field "object" (identifier ||| ref "this" ||| querySubscript ||| queryMember ||| queryCall) ++
    opt "?." ++ "[" ++ field "index" (ref "predefined_type" ||| ref "string" ||| ref "number") ++
    "]"),
  ("_type_query_call_expression",
    field "function" (ref "import" ||| identifier ||| queryMember ||| querySubscript) ++ arguments),
  ("_type_query_instantiation_expression",
    field "function" (ref "import" ||| identifier ||| queryMember ||| querySubscript) ++
    field "type_arguments" (ref "type_arguments")),
  ("type_query",
    right <|
      "typeof" ++
      (querySubscript ||| queryMember ||| queryCall |||
       shown "instantiation_expression" (ref "_type_query_instantiation_expression") |||
       identifier ||| ref "this")),
  ("index_type_query", "keyof" ++ ref "primary_type"),
  ("lookup_type", ref "primary_type" ++ "[" ++ type ++ "]"),
  ("mapped_type_clause",
    field "name" (ref "_type_identifier") ++ "in" ++ field "type" type ++
    opt ("as" ++ field "alias" type)),
  ("literal_type",
    shown "unary_expression" (ref "_number") ||| ref "number" ||| ref "string" ||| ref "true" |||
    ref "false" ||| ref "null" ||| ref "undefined"),
  ("_number", leftLevel 1 (field "operator" (words ["-", "+"]) ++ field "argument" (ref "number"))),
  ("existential_type", literal "*"),
  ("flow_maybe_type", right ("?" ++ ref "primary_type")),
  ("parenthesized_type", "(" ++ type ++ ")"),
  ("predefined_type",
    "any" ||| "number" ||| "boolean" ||| "string" ||| "symbol" |||
    spelled "unique symbol" (phrase ["unique", "symbol"]) ||| "void" ||| "unknown" ||| "string" |||
    "never" ||| "object"),
  ("type_arguments", "<" ++ sepBy1 type "," ++ opt "," ++ ">"),
  ("object_type",
    words ["\x7b", "\x7b|"] ++
    opt (opt (words [",", ";"]) ++
         sepBy1
           (oneNamed ["export_statement", "property_signature", "call_signature",
                      "construct_signature", "index_signature", "method_signature"])
           ("," ||| semicolon) ++
         opt ("," ||| semicolon)) ++
    words ["\x7d", "|\x7d"]),
  ("call_signature", ref "_call_signature"),
  ("property_signature",
    opt (ref "accessibility_modifier") ++ opt "static" ++ opt (ref "override_modifier") ++
    opt "readonly" ++ field "name" (ref "_property_name") ++ opt "?" ++ typeAnnotation),
  ("type_parameters", "<" ++ sepBy1 (ref "type_parameter") "," ++ opt "," ++ ">"),
  ("type_parameter",
    opt "const" ++ field "name" (ref "_type_identifier") ++
    field "constraint" (opt (ref "constraint")) ++ field "value" (opt (ref "default_type"))),
  ("default_type", "=" ++ type),
  ("constraint", words ["extends", ":"] ++ type),
  ("construct_signature",
    opt "abstract" ++ "new" ++ typeParameters ++ field "parameters" (ref "formal_parameters") ++
    typeAnnotation),
  ("index_signature",
    opt (field "sign" (opt (words ["-", "+"])) ++ "readonly") ++ "[" ++
    (field "name" (identifier ||| shown "identifier" (ref "_reserved_identifier")) ++ ":" ++
     field "index_type" type ||| ref "mapped_type_clause") ++ "]" ++
    field "type" (oneNamed ["type_annotation", "omitting_type_annotation",
                            "adding_type_annotation", "opting_type_annotation"])),
  ("array_type", ref "primary_type" ++ "[" ++ "]"),
  ("tuple_type", "[" ++ sepBy (ref "_tuple_type_member") "," ++ opt "," ++ "]"),
  ("readonly_type", "readonly" ++ type),
  ("union_type", left (opt type ++ "|" ++ type)),
  ("intersection_type", left (opt type ++ "&" ++ type)),
  ("function_type",
    left <|
      typeParameters ++ field "parameters" (ref "formal_parameters") ++ "=>" ++
      field "return_type" (type ||| ref "asserts" ||| ref "type_predicate")),
  ("_type_identifier", shown "type_identifier" identifier)]

end ModuleAtlas.TypeScript
