import ModuleAtlas.Record
import ModuleAtlas.Tree

/-!
# Imports and exports of a tree

Every node is visited once, a node before its children and children from left to right. An import
statement gives one record. Exports come from two places: from the statement itself, and from the
declaration in it.

## Main definitions

* `Tree.preorder` — the nodes of a tree in document order.
* `Tree.declarations` — the records of a tree, collected with a list of what is yet to be visited.
* `Tree.declared` — the same, said over the nodes in document order.
-/
namespace ModuleAtlas

/-! ## Categories -/

inductive Category
  | importing | exporting | function | classType | variable | interfaceType | typeAlias
  | enumeration | namespaceBlock | other
deriving DecidableEq, Inhabited, Repr

namespace Category

def text : Category → String
  | importing => "import"
  | exporting => "export"
  | function => "function"
  | classType => "class"
  | «variable» => "variable"
  | interfaceType => "interface"
  | typeAlias => "type-alias"
  | enumeration => "enum"
  | namespaceBlock => "namespace"
  | other => "other"

/-- The category of a kind of node. -/
def ofKind : String → Category
  | "import_statement" => importing
  | "export_statement" => exporting
  | "function_declaration" | "generator_function_declaration" | "function_signature" => function
  | "class_declaration" | "abstract_class_declaration" => classType
  | "lexical_declaration" | "variable_declaration" => «variable»
  | "interface_declaration" => interfaceType
  | "type_alias_declaration" => typeAlias
  | "enum_declaration" => enumeration
  | "internal_module" | "module" => namespaceBlock
  | _ => other

/-- The kind of export that a declaration gives, and whether it is of types only. -/
def exportKind? : Category → Option (ExportKind × Bool)
  | function => some (.function, false)
  | classType => some (.classType, false)
  | «variable» | enumeration => some (.named, false)
  | interfaceType => some (.interfaceType, true)
  | typeAlias => some (.typeAlias, true)
  | namespaceBlock => some (.wholeModule, false)
  | importing | exporting | other => none

end Category

/-- The name of a default export. -/
def defaultName : String := "default"

/-- A text without the quotes around it, if both are the same. -/
def unquoted (s : String) : String :=
  match s.toList with
  | q :: rest =>
    if (q = '\'' || q = '"' || q.toNat = 0x60) && rest.getLast? = some q then
      String.ofList rest.dropLast
    else s
  | [] => s

namespace Tree

def category (t : Tree) : Category := .ofKind t.kind

/-- The text of a name, which may be quoted. -/
def nameText (t : Tree) : String := if t.kind == "string" then unquoted t.text else t.text

/-- The local name of an import or export specifier: its alias if it has one. -/
def binding (t : Tree) : String :=
  match (t.child? "alias").or (t.child? "name") with
  | some b => b.nameText
  | none => t.text

/-! ## Imports -/

/-- What an import clause binds. -/
structure Bindings where
  names : List String
  hasDefault : Bool
  hasNamespace : Bool
  hasBraces : Bool
  specifiers : Nat
  typedSpecifiers : Nat

def Bindings.none : Bindings := ⟨[], false, false, false, 0, 0⟩

/-- Adds a specifier in braces. -/
def Bindings.addSpecifier (b : Bindings) (spec : Tree) : Bindings :=
  if spec.kind == "import_specifier" then
    { b with
      names := b.names ++ [spec.binding]
      specifiers := b.specifiers + 1
      typedSpecifiers := b.typedSpecifiers + if spec.hasToken "type" then 1 else 0 }
  else b

/-- Adds a child of an import clause. -/
def Bindings.add (b : Bindings) (child : Tree) : Bindings :=
  match child.kind with
  | "identifier" => { b with hasDefault := true, names := b.names ++ [child.text] }
  | "namespace_import" =>
    { b with
      hasNamespace := true
      names := b.names ++ ((child.first? "identifier").map text).toList }
  | "named_imports" =>
    child.namedChildren.foldl Bindings.addSpecifier { b with hasBraces := true }
  | _ => b

def Bindings.kind (b : Bindings) : ImportKind :=
  if b.hasNamespace then .wholeModule else if b.hasBraces then .named else .byDefault

/-- Whether every name is imported as a type by its own specifier. -/
def Bindings.allTyped (b : Bindings) : Bool :=
  0 < b.specifiers && b.typedSpecifiers = b.specifiers && !b.hasDefault && !b.hasNamespace

/-- The record of an import statement; none if it names no module. -/
def importRecord? (t : Tree) : Option ImportRecord :=
  let required := t.first? "import_require_clause"
  match (t.child? "source").or (required.bind fun r => r.child? "source") with
  | none => none
  | some source =>
    let specifier := unquoted source.text
    let typeOnly := t.hasToken "type"
    match required, t.first? "import_clause" with
    | some r, _ =>
      some ⟨specifier, ((r.first? "identifier").map text).toList, .byDefault, typeOnly⟩
    | none, none => some ⟨specifier, [], .sideEffect, typeOnly⟩
    | none, some clause =>
      let b := clause.namedChildren.foldl Bindings.add .none
      some ⟨specifier, b.names, b.kind, typeOnly || b.allTyped⟩

/-! ## Exports -/

/-- The records that an export statement gives itself, and not through a declaration. -/
def ownExports (t : Tree) : List ExportRecord :=
  let typeOnly := t.hasToken "type"
  if (t.child? "declaration").isSome then []
  else
    match t.first? "export_clause", t.first? "namespace_export" with
    | some clause, _ =>
      (clause.namedChildren.filter fun c => c.kind == "export_specifier").map fun spec =>
        ⟨spec.binding, .named, typeOnly || spec.hasToken "type"⟩
    | none, some whole =>
      [⟨(whole.namedChildren.getLast?.map nameText).getD "*", .wholeModule, typeOnly⟩]
    | none, none =>
      if t.hasToken "*" then [⟨"*", .wholeModule, typeOnly⟩]
      else if t.hasToken "import" then []
      else if t.hasToken "default" || t.hasToken "=" then [⟨defaultName, .byDefault, false⟩]
      else if t.hasToken "as" && t.hasToken "namespace" then
        ((t.first? "identifier").map fun n => ⟨n.text, .wholeModule, false⟩).toList
      else []

/-- The name that a declaration declares. Of several variables only the first counts. -/
def declaredName? (t : Tree) : Option String :=
  match t.category with
  | .variable => do
    let declarator ← t.first? "variable_declarator"
    let name ← declarator.child? "name"
    if name.kind == "identifier" then some name.text else none
  | _ => (t.child? "name").map nameText

/-- The export statement around a node, given the nodes around it from the inside out. The word
`declare` may stand between the two. -/
def enclosingExport? : (around : List Tree) → Option Tree
  | [] => none
  | p :: rest =>
    let statement? := if p.kind == "ambient_declaration" then rest.head? else some p
    statement?.filter fun s => s.kind == "export_statement"

/-- The record that a declaration gives to the export statement around it. -/
def declaredExport? (around : List Tree) (t : Tree) : Option ExportRecord := do
  let statement ← enclosingExport? around
  if statement.hasToken "default" then return ⟨defaultName, .byDefault, false⟩
  let (kind, typeOnly) ← t.category.exportKind?
  let name ← t.declaredName?
  return ⟨name, kind, typeOnly⟩

/-! ## The whole tree -/

/-- The records of a node, without those of its children. -/
def imports (t : Tree) : List ImportRecord :=
  if t.category = .importing then t.importRecord?.toList else []

def exports (around : List Tree) (t : Tree) : List ExportRecord :=
  match t.category with
  | .importing | .other => []
  | .exporting => t.ownExports
  | _ => (t.declaredExport? around).toList

mutual

/-- The nodes of a tree in document order, each with the nodes around it from the inside out. -/
def preorder (around : List Tree) : Tree → List (List Tree × Tree)
  | t@⟨_, _, _, _, children, _, _, _, _⟩ => (around, t) :: preorderIn (t :: around) children

def preorderIn (around : List Tree) : List Tree → List (List Tree × Tree)
  | [] => []
  | t :: ts => preorder around t ++ preorderIn around ts

end

end Tree

/-- The imports and exports of a file. -/
structure Declarations where
  imports : List ImportRecord
  exports : List ExportRecord
deriving DecidableEq, Inhabited, Repr

namespace Declarations

/-- The first of equal elements, in order. -/
def firsts {α : Type} [DecidableEq α] (xs : List α) : List α :=
  (xs.foldl (fun (kept : List α) x => if x ∈ kept then kept else x :: kept) []).reverse

/-- Adds the records of a node. No export is recorded twice. -/
def add (d : Declarations) (visit : List Tree × Tree) : Declarations :=
  ⟨d.imports ++ visit.2.imports,
    (visit.2.exports visit.1).foldl (fun es e => if e ∈ es then es else es ++ [e]) d.exports⟩

end Declarations

namespace Tree

/-- What is yet to be visited: nodes with the nodes around them, the next one first. -/
abbrev Worklist := List (List Tree × Tree)

def Worklist.size (w : Worklist) : Nat := sizeIn (w.map Prod.snd)

/-- Visits the next node and puts its children in its place. -/
def Worklist.run : (fuel : Nat) → Worklist → Declarations → Declarations
  | 0, _, d => d
  | _, [], d => d
  | fuel + 1, (around, t) :: rest, d =>
    run fuel (t.children.map (t :: around, ·) ++ rest) (d.add (around, t))

/-- The records of all nodes in document order; of equal exports only the first is kept. -/
def declared (t : Tree) : Declarations :=
  let visits := preorder [] t
  ⟨visits.flatMap fun v => v.2.imports,
    Declarations.firsts (visits.flatMap fun v => v.2.exports v.1)⟩

/-- The imports and exports of a tree. -/
def declarations (t : Tree) : Declarations := Worklist.run t.size [([], t)] ⟨[], []⟩

end Tree

end ModuleAtlas
