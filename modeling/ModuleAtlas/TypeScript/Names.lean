import ModuleAtlas.Grammar.Rule

/-!
# Parts that many rules share
-/
namespace ModuleAtlas.TypeScript

open Grammar Grammar.Rule

/-- The two grammars: with angle-bracket type assertions, or with markup elements. -/
inductive Dialect
  | typescript | tsx
deriving DecidableEq, Inhabited, Repr

/-- The kinds of expression that only one of the dialects has stand before `primary_expression`,
with it. -/
def Dialect.ownExpressions : Dialect → List String
  | typescript => ["type_assertion", "primary_expression"]
  | tsx => ["primary_expression", "_jsx_element"]

namespace Names

/-- One of the named rules. -/
def oneNamed (names : List String) : Rule := oneOf (names.map ref)

/-- The listed literals one after the other. -/
def phrase : List String → Rule
  | [] => blank
  | [w] => literal w
  | w :: ws => literal w ++ phrase ws

def binds (name : String) (a : Rule) : Rule := rank (.name name) none a

def leftBinds (name : String) (a : Rule) : Rule := rank (.name name) (some .left) a

def rightBinds (name : String) (a : Rule) : Rule := rank (.name name) (some .right) a

def level (n : Int) (a : Rule) : Rule := rank (.level n) none a

def leftLevel (n : Int) (a : Rule) : Rule := rank (.level n) (some .left) a

def left (a : Rule) : Rule := rank (.level 0) (some .left) a

def right (a : Rule) : Rule := rank (.level 0) (some .right) a

/-- The rule, shown as a node of another name. -/
def shown (name : String) (a : Rule) : Rule := renamed ⟨name, true⟩ a

/-- The rule, shown as an anonymous token. -/
def spelled (name : String) (a : Rule) : Rule := renamed ⟨name, false⟩ a

def expression : Rule := ref "expression"

def statement : Rule := ref "statement"

def identifier : Rule := ref "identifier"

def type : Rule := ref "type"

def semicolon : Rule := ref "_semicolon"

def binding : Rule := identifier ||| ref "_destructuring_pattern"

def property : Rule := shown "property_identifier" identifier

def decorators : Rule := many (field "decorator" (ref "decorator"))

def typeParameters : Rule := field "type_parameters" (opt (ref "type_parameters"))

def typeArguments : Rule := field "type_arguments" (opt (ref "type_arguments"))

def typeAnnotation : Rule := field "type" (opt (ref "type_annotation"))

def block : Rule := field "body" (ref "statement_block")

def arguments : Rule := field "arguments" (ref "arguments")

def annotationMember : Rule :=
  shown "member_expression" (ref "_type_query_member_expression_in_type_annotation")

def annotationCall : Rule :=
  shown "call_expression" (ref "_type_query_call_expression_in_type_annotation")

def queryMember : Rule := shown "member_expression" (ref "_type_query_member_expression")

def queryCall : Rule := shown "call_expression" (ref "_type_query_call_expression")

def querySubscript : Rule := shown "subscript_expression" (ref "_type_query_subscript_expression")

def decoratorMember : Rule := shown "member_expression" (ref "decorator_member_expression")

def decoratorCall : Rule := shown "call_expression" (ref "decorator_call_expression")

end Names

end ModuleAtlas.TypeScript
