import ModuleAtlas.TypeScript.Statements
import ModuleAtlas.TypeScript.Expressions
import ModuleAtlas.TypeScript.Types

/-!
# The grammar of TypeScript

The two dialects share every rule but one: `typescript` reads `<T>x` as a type assertion, `tsx`
reads `<T>` as the start of a markup element.
-/
namespace ModuleAtlas.TypeScript

open Grammar

/-- Blanks between tokens, with the byte order mark and other invisible characters. -/
def blanks : CharClass :=
  .blank ++ .spaceSeparator ++
  ⟨[(0xFEFF, 0xFEFF), (0x2028, 0x2029), (0x2060, 0x2060), (0x200B, 0x200B)]⟩

def rankings : List (List Ranked) :=
  [[.name "member", .name "template_call", .name "call", .rule "update_expression",
    .name "unary_void", .name "binary_exp", .name "binary_times", .name "binary_plus",
    .name "binary_shift", .name "binary_compare", .name "binary_relation",
    .name "binary_equality", .name "bitwise_and", .name "bitwise_xor", .name "bitwise_or",
    .name "logical_and", .name "logical_or", .name "ternary", .rule "sequence_expression",
    .rule "arrow_function"],
   [.name "assign", .rule "primary_expression"],
   [.name "member", .name "template_call", .name "new", .name "call", .rule "expression"],
   [.name "declare", .name "literal"],
   [.rule "primary_expression", .rule "statement_block", .name "object"],
   [.rule "meta_property", .rule "import"],
   [.rule "import_statement", .rule "import"],
   [.rule "export_statement", .rule "primary_expression"],
   [.rule "lexical_declaration", .rule "primary_expression"],
   [.name "call", .name "instantiation", .name "unary", .name "binary",
    .rule "await_expression", .rule "arrow_function"],
   [.name "extends", .name "instantiation"],
   [.rule "intersection_type", .rule "union_type", .rule "conditional_type",
    .rule "function_type", .name "binary", .rule "type_predicate", .rule "readonly_type"],
   [.rule "mapped_type_clause", .rule "primary_expression"],
   [.rule "accessibility_modifier", .rule "primary_expression"],
   [.name "unary_void", .rule "expression"],
   [.rule "extends_clause", .rule "primary_expression"],
   [.name "unary", .name "assign"],
   [.name "declare", .rule "expression"],
   [.rule "predefined_type", .rule "unary_expression"],
   [.rule "type", .rule "flow_maybe_type"],
   [.rule "tuple_type", .rule "array_type", .rule "pattern", .rule "type"],
   [.rule "readonly_type", .rule "pattern"],
   [.rule "readonly_type", .rule "primary_expression"],
   [.rule "type_query", .rule "subscript_expression", .rule "expression"],
   [.rule "type_query", .rule "_type_query_subscript_expression"],
   [.rule "nested_type_identifier", .rule "generic_type", .rule "primary_type",
    .rule "lookup_type", .rule "index_type_query", .rule "type"],
   [.rule "as_expression", .rule "satisfies_expression", .rule "primary_type"],
   [.rule "_type_query_member_expression", .rule "member_expression"],
   [.rule "member_expression", .rule "_type_query_member_expression_in_type_annotation"],
   [.rule "_type_query_member_expression", .rule "primary_expression"],
   [.rule "_type_query_subscript_expression", .rule "subscript_expression"],
   [.rule "_type_query_subscript_expression", .rule "primary_expression"],
   [.rule "_type_query_call_expression", .rule "primary_expression"],
   [.rule "_type_query_instantiation_expression", .rule "primary_expression"],
   [.rule "type_query", .rule "primary_expression"],
   [.rule "override_modifier", .rule "primary_expression"],
   [.rule "decorator_call_expression", .rule "decorator"],
   [.rule "literal_type", .rule "pattern"],
   [.rule "predefined_type", .rule "pattern"],
   [.rule "call_expression", .rule "_type_query_call_expression"],
   [.rule "call_expression", .rule "_type_query_call_expression_in_type_annotation"],
   [.rule "new_expression", .rule "primary_expression"],
   [.rule "meta_property", .rule "primary_expression"],
   [.rule "construct_signature", .rule "_property_name"]]

/-- Tokens that a text after an error is not searched for: they match almost anything, or begin
like another token. -/
def notInRecovery : Dialect → List String
  | .typescript => "</" :: shared
  | .tsx => shared
where
  shared : List String :=
    ["html_character_reference", "jsx_identifier", "/>", "unescaped_double_jsx_string_fragment",
     "unescaped_single_jsx_string_fragment", "unescaped_double_string_fragment",
     "unescaped_single_string_fragment", "regex_pattern", "regex_flags", "?:"]

def definition (d : Dialect) : Definition where
  rules := statements ++ expressions d ++ types
  blanks := blanks
  extras := ["comment", "html_comment"]
  scanned :=
    [.named "_automatic_semicolon", .named "_template_chars", .named "_ternary_qmark",
     .named "html_comment", .literal "||", .named "escape_sequence", .named "regex_pattern",
     .named "jsx_text", .named "_function_signature_automatic_semicolon",
     .named "__error_recovery"]
  groups :=
    ["statement", "declaration", "expression", "primary_expression", "pattern", "type",
     "primary_type"]
  inlined :=
    ["_expressions", "_semicolon", "_identifier", "_reserved_identifier", "_jsx_attribute",
     "_jsx_element_name", "_jsx_child", "_jsx_element", "_jsx_attribute_name",
     "_jsx_attribute_value", "_jsx_identifier", "_lhs_expression", "_type_identifier",
     "_jsx_start_opening_element"]
  rankings := rankings
  word := "identifier"
  notInRecovery := notInRecovery d

end ModuleAtlas.TypeScript
