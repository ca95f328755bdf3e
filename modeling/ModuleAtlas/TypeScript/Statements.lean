import ModuleAtlas.TypeScript.Lexicon
import ModuleAtlas.TypeScript.Names

/-!
# Statements

The rules of a program: imports, exports, declarations and control flow. The position of a rule in
the list settles which of two equally good readings is tried first.
-/
namespace ModuleAtlas.TypeScript

open Grammar Grammar.Rule Names

def statements : List (String × Rule) :=
  [("program", opt (ref "hash_bang_line") ++ many statement),
  ("hash_bang_line", Lexicon.hashBangLine),
  ("export_statement",
    "export" ++
    ("*" ++ ref "_from_clause" ||| ref "namespace_export" ++ ref "_from_clause" |||
     ref "export_clause" ++ ref "_from_clause" ||| ref "export_clause") ++ semicolon |||
    decorators ++ "export" ++
    (field "declaration" (ref "declaration") |||
     "default" ++
     (field "declaration" (ref "declaration") ||| field "value" expression ++ semicolon)) |||
    "export" ++ "type" ++ ref "export_clause" ++ opt (ref "_from_clause") ++ semicolon |||
    "export" ++ "import" ++ ref "import_alias" ||| "export" ++ "=" ++ expression ++ semicolon |||
    "export" ++ "as" ++ "namespace" ++ identifier ++ semicolon),
  ("namespace_export", "*" ++ "as" ++ ref "_module_export_name"),
  ("export_clause", "\x7b" ++ sepBy (ref "export_specifier") "," ++ opt "," ++ "\x7d"),
  ("export_specifier",
    opt (words ["type", "typeof"]) ++
    (field "name" (ref "_module_export_name") ++
     opt ("as" ++ field "alias" (ref "_module_export_name")))),
  ("_module_export_name", identifier ||| ref "string"),
  ("declaration",
    oneNamed ["function_declaration", "generator_function_declaration", "class_declaration",
              "lexical_declaration", "variable_declaration"] ||| ref "function_signature" |||
    ref "abstract_class_declaration" ||| ref "module" |||
    binds "declare" (ref "internal_module") ||| ref "type_alias_declaration" |||
    ref "enum_declaration" ||| ref "interface_declaration" ||| ref "import_alias" |||
    ref "ambient_declaration"),
  ("import", literal "import"),
  ("import_statement",
    "import" ++ opt (words ["type", "typeof"]) ++
    (ref "import_clause" ++ ref "_from_clause" ||| ref "import_require_clause" |||
     field "source" (ref "string")) ++ opt (ref "import_attribute") ++ semicolon),
  ("import_clause",
    ref "namespace_import" ||| ref "named_imports" |||
    ref "_import_identifier" ++ opt ("," ++ (ref "namespace_import" ||| ref "named_imports"))),
  ("_from_clause", "from" ++ field "source" (ref "string")),
  ("namespace_import", "*" ++ "as" ++ identifier),
  ("named_imports", "\x7b" ++ sepBy (ref "import_specifier") "," ++ opt "," ++ "\x7d"),
  ("import_specifier",
    opt (words ["type", "typeof"]) ++
    (field "name" (ref "_import_identifier") |||
     field "name" (ref "_module_export_name" ||| shown "identifier" "type") ++ "as" ++
     field "alias" (ref "_import_identifier"))),
  ("import_attribute", words ["with", "assert"] ++ ref "object"),
  ("statement",
    oneNamed ["export_statement", "import_statement", "debugger_statement",
              "expression_statement", "declaration", "statement_block", "if_statement",
              "switch_statement", "for_statement", "for_in_statement", "while_statement",
              "do_statement", "try_statement", "with_statement", "break_statement",
              "continue_statement", "return_statement", "throw_statement", "empty_statement",
              "labeled_statement"]),
  ("expression_statement", ref "_expressions" ++ semicolon),
  ("variable_declaration", "var" ++ sepBy1 (ref "variable_declarator") "," ++ semicolon),
  ("lexical_declaration",
    field "kind" (words ["let", "const"]) ++ sepBy1 (ref "variable_declarator") "," ++ semicolon),
  ("variable_declarator",
    field "name" binding ++ typeAnnotation ++ opt (ref "_initializer") |||
    binds "declare" (field "name" identifier ++ "!" ++ field "type" (ref "type_annotation"))),
  ("statement_block",
    right ("\x7b" ++ many statement ++ "\x7d" ++ opt (ref "_automatic_semicolon"))),
  ("else_clause", "else" ++ statement),
  ("if_statement",
    right <|
      "if" ++ field "condition" (ref "parenthesized_expression") ++
      field "consequence" statement ++ opt (field "alternative" (ref "else_clause"))),
  ("switch_statement",
    "switch" ++ field "value" (ref "parenthesized_expression") ++ field "body" (ref "switch_body")),
  ("for_statement",
    "for" ++ "(" ++
    (field "initializer" (ref "lexical_declaration" ||| ref "variable_declaration") |||
     field "initializer" (ref "_expressions") ++ ";" |||
     field "initializer" (ref "empty_statement")) ++
    field "condition" (ref "_expressions" ++ ";" ||| ref "empty_statement") ++
    field "increment" (opt (ref "_expressions")) ++ ")" ++ field "body" statement),
  ("for_in_statement", "for" ++ opt "await" ++ ref "_for_header" ++ field "body" statement),
  ("_for_header",
    "(" ++
    (field "left" (ref "_lhs_expression" ||| ref "parenthesized_expression") |||
     field "kind" "var" ++ field "left" binding ++ opt (ref "_initializer") |||
     field "kind" (words ["let", "const"]) ++ field "left" binding ++
     opt (ref "_automatic_semicolon")) ++ field "operator" (words ["in", "of"]) ++
    field "right" (ref "_expressions") ++ ")"),
  ("while_statement",
    "while" ++ field "condition" (ref "parenthesized_expression") ++ field "body" statement),
  ("do_statement",
    right <|
      "do" ++ field "body" statement ++ "while" ++
      field "condition" (ref "parenthesized_expression") ++ opt semicolon),
  ("try_statement",
    "try" ++ block ++ opt (field "handler" (ref "catch_clause")) ++
    opt (field "finalizer" (ref "finally_clause"))),
  ("with_statement",
    "with" ++ field "object" (ref "parenthesized_expression") ++ field "body" statement),
  ("break_statement",
    "break" ++ field "label" (opt (shown "statement_identifier" identifier)) ++ semicolon),
  ("continue_statement",
    "continue" ++ field "label" (opt (shown "statement_identifier" identifier)) ++ semicolon),
  ("debugger_statement", "debugger" ++ semicolon),
  ("return_statement", "return" ++ opt (ref "_expressions") ++ semicolon),
  ("throw_statement", "throw" ++ ref "_expressions" ++ semicolon),
  ("empty_statement", literal ";"),
  ("labeled_statement",
    weight (-1) <|
      field "label" (shown "statement_identifier" (identifier ||| ref "_reserved_identifier")) ++
      ":" ++ field "body" statement),
  ("switch_body", "\x7b" ++ many (ref "switch_case" ||| ref "switch_default") ++ "\x7d"),
  ("switch_case",
    "case" ++ field "value" (ref "_expressions") ++ ":" ++ field "body" (many statement)),
  ("switch_default", "default" ++ ":" ++ field "body" (many statement)),
  ("catch_clause",
    "catch" ++
    opt ("(" ++ field "parameter" binding ++ opt (field "type" (ref "type_annotation")) ++ ")") ++
    block),
  ("finally_clause", "finally" ++ block)]

end ModuleAtlas.TypeScript
