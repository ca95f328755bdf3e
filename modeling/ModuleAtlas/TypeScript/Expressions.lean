import ModuleAtlas.TypeScript.Lexicon
import ModuleAtlas.TypeScript.Names

/-!
# Expressions

The rules of expressions, markup elements, functions, classes and patterns.
-/
namespace ModuleAtlas.TypeScript

open Grammar Grammar.Rule Names

/-- The binary operators with the name of their rank and the side they group to. -/
def operators : List (String × String × Side) :=
  [("&&", "logical_and", .left), ("||", "logical_or", .left), (">>", "binary_shift", .left),
   (">>>", "binary_shift", .left), ("<<", "binary_shift", .left), ("&", "bitwise_and", .left),
   ("^", "bitwise_xor", .left), ("|", "bitwise_or", .left), ("+", "binary_plus", .left),
   ("-", "binary_plus", .left), ("*", "binary_times", .left), ("/", "binary_times", .left),
   ("%", "binary_times", .left), ("**", "binary_exp", .right), ("<", "binary_relation", .left),
   ("<=", "binary_relation", .left), ("==", "binary_equality", .left),
   ("===", "binary_equality", .left), ("!=", "binary_equality", .left),
   ("!==", "binary_equality", .left), (">=", "binary_relation", .left),
   (">", "binary_relation", .left), ("??", "ternary", .left),
   ("instanceof", "binary_relation", .left)]

def operation (op rankName : String) (side : Side) : Rule :=
  rank (.name rankName) (some side)
    (field "left" expression ++ field "operator" op ++ field "right" expression)

/-- The slash that ends a regular expression stands directly behind its body. -/
def closingSlash : Rule := token ⟨.literal "/", true, 1⟩

def expressions (d : Dialect) : List (String × Rule) :=
  [("parenthesized_expression",
    "(" ++ (expression ++ typeAnnotation ||| ref "sequence_expression") ++ ")"),
  ("_expressions", expression ||| ref "sequence_expression"),
  ("expression",
    oneNamed
      (["as_expression", "satisfies_expression", "instantiation_expression", "internal_module"] ++
       d.ownExpressions ++
       ["assignment_expression", "augmented_assignment_expression", "await_expression",
        "unary_expression", "binary_expression", "ternary_expression", "update_expression",
        "new_expression", "yield_expression"])),
  ("primary_expression",
    ref "subscript_expression" ||| ref "member_expression" |||
    ref "parenthesized_expression" ||| ref "_identifier" |||
    shown "identifier" (ref "_reserved_identifier") ||| ref "this" ||| ref "super" |||
    ref "number" ||| ref "string" ||| ref "template_string" ||| ref "regex" ||| ref "true" |||
    ref "false" ||| ref "null" ||| ref "object" ||| ref "array" ||| ref "function_expression" |||
    ref "arrow_function" ||| ref "generator_function" ||| ref "class" ||| ref "meta_property" |||
    ref "call_expression" ||| ref "non_null_expression"),
  ("yield_expression", right ("yield" ++ ("*" ++ expression ||| opt expression))),
  ("object",
    binds "object" <|
      "\x7b" ++
      sepBy (opt (ref "pair" ||| ref "spread_element" ||| ref "method_definition" |||
                  shown "shorthand_property_identifier"
                    (identifier ||| ref "_reserved_identifier"))) "," ++
      "\x7d"),
  ("object_pattern",
    binds "object" <|
      "\x7b" ++
      sepBy (opt (ref "pair_pattern" ||| ref "rest_pattern" |||
                  ref "object_assignment_pattern" |||
                  shown "shorthand_property_identifier_pattern"
                    (identifier ||| ref "_reserved_identifier"))) "," ++
      "\x7d"),
  ("assignment_pattern", field "left" (ref "pattern") ++ "=" ++ field "right" expression),
  ("object_assignment_pattern",
    field "left" (shown "shorthand_property_identifier_pattern" (ref "_reserved_identifier" |||
                                                                 identifier) |||
                  ref "_destructuring_pattern") ++ "=" ++ field "right" expression),
  ("array", "[" ++ sepBy (opt (expression ||| ref "spread_element")) "," ++ "]"),
  ("array_pattern", "[" ++ sepBy (opt (ref "pattern" ||| ref "assignment_pattern")) "," ++ "]"),
  ("_jsx_element", ref "jsx_element" ||| ref "jsx_self_closing_element"),
  ("jsx_element",
    field "open_tag" (ref "jsx_opening_element") ++ many (ref "_jsx_child") ++
    field "close_tag" (ref "jsx_closing_element")),
  ("html_character_reference", Lexicon.characterReference),
  ("jsx_expression",
    "\x7b" ++ opt (expression ||| ref "sequence_expression" ||| ref "spread_element") ++ "\x7d"),
  ("_jsx_child",
    oneNamed ["jsx_text", "html_character_reference", "_jsx_element", "jsx_expression"]),
  ("jsx_opening_element", weight (-1) (ref "_jsx_start_opening_element" ++ ">")),
  ("jsx_identifier", Lexicon.jsxIdentifier),
  ("_jsx_identifier", shown "identifier" (ref "jsx_identifier") ||| identifier),
  ("nested_identifier",
    binds "member" <|
      field "object" (identifier ||| shown "member_expression" (ref "nested_identifier")) ++
      "." ++ field "property" property),
  ("jsx_namespace_name", ref "_jsx_identifier" ++ ":" ++ ref "_jsx_identifier"),
  ("_jsx_element_name",
    ref "_jsx_identifier" ||| shown "member_expression" (ref "nested_identifier") |||
    ref "jsx_namespace_name"),
  ("jsx_closing_element", "</" ++ opt (field "name" (ref "_jsx_element_name")) ++ ">"),
  ("jsx_self_closing_element", weight (-1) (ref "_jsx_start_opening_element" ++ "/>")),
  ("_jsx_attribute", ref "jsx_attribute" ||| ref "jsx_expression"),
  ("_jsx_attribute_name",
    shown "property_identifier" (ref "_jsx_identifier") ||| ref "jsx_namespace_name"),
  ("jsx_attribute", ref "_jsx_attribute_name" ++ opt ("=" ++ ref "_jsx_attribute_value")),
  ("_jsx_string",
    "\"" ++
    many (shown "string_fragment" (ref "unescaped_double_jsx_string_fragment") |||
          ref "html_character_reference") ++ "\"" |||
    "'" ++
    many (shown "string_fragment" (ref "unescaped_single_jsx_string_fragment") |||
          ref "html_character_reference") ++ "'"),
  ("unescaped_double_jsx_string_fragment", Lexicon.doubleJsxFragment),
  ("unescaped_single_jsx_string_fragment", Lexicon.singleJsxFragment),
  ("_jsx_attribute_value",
    shown "string" (ref "_jsx_string") ||| ref "jsx_expression" ||| ref "_jsx_element"),
  ("class",
    binds "literal" <|
      decorators ++ "class" ++ field "name" (opt (ref "_type_identifier")) ++ typeParameters ++
      opt (ref "class_heritage") ++ field "body" (ref "class_body")),
  ("class_declaration",
    leftBinds "declare" <|
      decorators ++ "class" ++ field "name" (ref "_type_identifier") ++ typeParameters ++
      opt (ref "class_heritage") ++ field "body" (ref "class_body") ++
      opt (ref "_automatic_semicolon")),
  ("class_heritage",
    ref "extends_clause" ++ opt (ref "implements_clause") ||| ref "implements_clause"),
  ("function_expression",
    binds "literal" <|
      opt "async" ++ "function" ++ field "name" (opt identifier) ++ ref "_call_signature" ++ block),
  ("function_declaration",
    rightBinds "declare" <|
      opt "async" ++ "function" ++ field "name" identifier ++ ref "_call_signature" ++ block ++
      opt (ref "_automatic_semicolon")),
  ("generator_function",
    binds "literal" <|
      opt "async" ++ "function" ++ "*" ++ field "name" (opt identifier) ++
      ref "_call_signature" ++ block),
  ("generator_function_declaration",
    rightBinds "declare" <|
      opt "async" ++ "function" ++ "*" ++ field "name" identifier ++ ref "_call_signature" ++
      block ++ opt (ref "_automatic_semicolon")),
  ("arrow_function",
    opt "async" ++
    (field "parameter" (shown "identifier" (ref "_reserved_identifier") ||| identifier) |||
     ref "_call_signature") ++ "=>" ++ field "body" (expression ||| ref "statement_block")),
  ("_call_signature",
    typeParameters ++ field "parameters" (ref "formal_parameters") ++
    field "return_type" (opt (ref "type_annotation" ||| ref "asserts_annotation" |||
                              ref "type_predicate_annotation"))),
  ("_formal_parameter", ref "required_parameter" ||| ref "optional_parameter"),
  ("optional_chain", literal "?."),
  ("call_expression",
    binds "call" (field "function" (expression ||| ref "import") ++ typeArguments ++
                  arguments) |||
    binds "template_call" (field "function" (ref "primary_expression" |||
                                             ref "new_expression") ++
                           field "arguments" (ref "template_string")) |||
    binds "member" (field "function" (ref "primary_expression") ++ "?." ++ typeArguments ++
                    arguments)),
  ("new_expression",
    rightBinds "new" <|
      "new" ++ field "constructor" (ref "primary_expression") ++ typeArguments ++
      field "arguments" (opt (ref "arguments"))),
  ("await_expression", binds "unary_void" ("await" ++ expression)),
  ("member_expression",
    binds "member" <|
      field "object" (expression ||| ref "primary_expression" ||| ref "import") ++
      ("." ||| field "optional_chain" (ref "optional_chain")) ++
      field "property" (ref "private_property_identifier" ||| property)),
  ("subscript_expression",
    rightBinds "member" <|
      field "object" (expression ||| ref "primary_expression") ++
      opt (field "optional_chain" (ref "optional_chain")) ++ "[" ++
      field "index" (ref "_expressions") ++ "]"),
  ("_lhs_expression",
    ref "member_expression" ||| ref "subscript_expression" ||| ref "_identifier" |||
    shown "identifier" (ref "_reserved_identifier") ||| ref "_destructuring_pattern" |||
    ref "non_null_expression"),
  ("assignment_expression",
    rightBinds "assign" <|
      opt "using" ++ field "left" (ref "parenthesized_expression" ||| ref "_lhs_expression") ++
      "=" ++ field "right" expression),
  ("_augmented_assignment_lhs",
    ref "member_expression" ||| ref "subscript_expression" |||
    shown "identifier" (ref "_reserved_identifier") ||| identifier |||
    ref "parenthesized_expression" ||| ref "non_null_expression"),
  ("augmented_assignment_expression",
    rightBinds "assign" <|
      field "left" (ref "_augmented_assignment_lhs") ++
      field "operator" (words ["+=", "-=", "*=", "/=", "%=", "^=", "&=", "|=", ">>=", ">>>=",
                               "<<=", "**=", "&&=", "||=", "??="]) ++ field "right" expression),
  ("_initializer", "=" ++ field "value" expression),
  ("_destructuring_pattern", ref "object_pattern" ||| ref "array_pattern"),
  ("spread_element", "..." ++ expression),
  ("ternary_expression",
    rightBinds "ternary" <|
      field "condition" expression ++ spelled "?" (ref "_ternary_qmark") ++
      field "consequence" expression ++ ":" ++ field "alternative" expression),
  ("binary_expression",
    oneOf (operators.map fun o => operation o.1 o.2.1 o.2.2) |||
    leftBinds "binary_relation"
      (field "left" (expression ||| ref "private_property_identifier") ++
       field "operator" "in" ++ field "right" expression)),
  ("unary_expression",
    leftBinds "unary_void" <|
      field "operator" (words ["!", "~", "-", "+", "typeof", "void", "delete"]) ++
      field "argument" expression),
  ("update_expression",
    left <|
      field "argument" expression ++ field "operator" (words ["++", "--"]) |||
      field "operator" (words ["++", "--"]) ++ field "argument" expression),
  ("sequence_expression", right (sepBy1 expression ",")),
  ("string",
    "\"" ++
    many (shown "string_fragment" (ref "unescaped_double_string_fragment") |||
          ref "escape_sequence") ++ "\"" |||
    "'" ++
    many (shown "string_fragment" (ref "unescaped_single_string_fragment") |||
          ref "escape_sequence") ++ "'"),
  ("unescaped_double_string_fragment", Lexicon.doubleFragment),
  ("unescaped_single_string_fragment", Lexicon.singleFragment),
  ("escape_sequence", Lexicon.escapeSequence),
  ("comment", Lexicon.comment),
  ("template_string",
    "\x60" ++
    many (shown "string_fragment" (ref "_template_chars") ||| ref "escape_sequence" |||
          ref "template_substitution") ++ "\x60"),
  ("template_substitution", "$\x7b" ++ ref "_expressions" ++ "\x7d"),
  ("regex",
    "/" ++ field "pattern" (ref "regex_pattern") ++ closingSlash ++
    opt (field "flags" (ref "regex_flags"))),
  ("regex_pattern", Lexicon.regexPattern),
  ("regex_flags", Lexicon.regexFlags),
  ("number", Lexicon.number),
  ("_identifier", ref "undefined" ||| identifier),
  ("identifier", Lexicon.word),
  ("private_property_identifier", Lexicon.privateWord),
  ("meta_property", phrase ["new", ".", "target"] ||| phrase ["import", ".", "meta"]),
  ("this", literal "this"),
  ("super", literal "super"),
  ("true", literal "true"),
  ("false", literal "false"),
  ("null", literal "null"),
  ("undefined", literal "undefined"),
  ("arguments", "(" ++ sepBy (opt (expression ||| ref "spread_element")) "," ++ ")"),
  ("decorator",
    "@" ++
    (identifier ||| decoratorMember ||| decoratorCall |||
     shown "parenthesized_expression" (ref "decorator_parenthesized_expression"))),
  ("decorator_member_expression",
    binds "member" <|
      field "object" (identifier ||| decoratorMember) ++ "." ++ field "property" property),
  ("decorator_call_expression",
    binds "call" <|
      field "function" (identifier ||| decoratorMember) ++
      opt (field "type_arguments" (ref "type_arguments")) ++ arguments),
  ("class_body",
    "\x7b" ++
    many (decorators ++ ref "method_definition" ++ opt semicolon |||
          ref "method_signature" ++ (ref "_function_signature_automatic_semicolon" ||| ",") |||
          ref "class_static_block" |||
          oneNamed ["abstract_method_signature", "index_signature", "method_signature",
                    "public_field_definition"] ++ (semicolon ||| ",") ||| ";") ++ "\x7d"),
  ("field_definition",
    decorators ++ opt "static" ++ field "property" (ref "_property_name") ++
    opt (ref "_initializer")),
  ("formal_parameters", "(" ++ opt (sepBy1 (ref "_formal_parameter") "," ++ opt ",") ++ ")"),
  ("class_static_block", "static" ++ block),
  ("pattern", weight (-1) (ref "_lhs_expression" ||| ref "rest_pattern")),
  ("rest_pattern", right ("..." ++ ref "_lhs_expression")),
  ("method_definition",
    left <|
      opt (ref "accessibility_modifier") ++ opt "static" ++ opt (ref "override_modifier") ++
      opt "readonly" ++ opt "async" ++ opt (words ["get", "set", "*"]) ++
      field "name" (ref "_property_name") ++ opt "?" ++ ref "_call_signature" ++ block),
  ("pair", field "key" (ref "_property_name") ++ ":" ++ field "value" expression),
  ("pair_pattern",
    field "key" (ref "_property_name") ++ ":" ++
    field "value" (ref "pattern" ||| ref "assignment_pattern")),
  ("_property_name",
    shown "property_identifier" (identifier ||| ref "_reserved_identifier") |||
    ref "private_property_identifier" ||| ref "string" ||| ref "number" |||
    ref "computed_property_name"),
  ("computed_property_name", "[" ++ expression ++ "]"),
  ("_reserved_identifier",
    "declare" ||| "namespace" ||| "type" ||| "public" ||| "private" ||| "protected" |||
    "override" ||| "readonly" ||| "module" ||| "any" ||| "number" ||| "boolean" ||| "string" |||
    "symbol" ||| "export" ||| "object" ||| "new" ||| "readonly" |||
    words ["get", "set", "async", "static", "export", "let"]),
  ("_semicolon", ref "_automatic_semicolon" ||| ";")]

end ModuleAtlas.TypeScript
