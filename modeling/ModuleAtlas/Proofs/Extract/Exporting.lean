import ModuleAtlas.Proofs.Extract.Siblings
import ModuleAtlas.Proofs.Extract.Worklist

/-!
# Reading export statements

An export statement is given as it is written, and with it the trees that show it. Its records come
from the statement itself or from the declaration in it, never from both. A block that stands where
a value may stand is the exception: it is recorded as a declaration too.

## Main definitions

* `Declaration` — a declaration that may be exported.
* `ExportForm` — an export statement, with its records.
* `ExportForm.ShownBy` — the trees of an export statement.
-/
namespace ModuleAtlas

open ModuleAtlas.Tree (IsNode IsToken Marks Names Says Specifier Spells IsFiller)

/-! ## Declarations -/

/-- The sorts of declarations. -/
inductive DeclarationSort
  | function | classType | declarators | interfaceType | typeAlias | enumeration | block
deriving DecidableEq

namespace DeclarationSort

/-- The nodes of a sort. -/
def nodes : DeclarationSort → List String
  | function => ["function_declaration", "generator_function_declaration", "function_signature"]
  | classType => ["class_declaration", "abstract_class_declaration"]
  | declarators => ["lexical_declaration", "variable_declaration"]
  | interfaceType => ["interface_declaration"]
  | typeAlias => ["type_alias_declaration"]
  | enumeration => ["enum_declaration"]
  | block => ["internal_module", "module"]

def exportKind : DeclarationSort → ExportKind
  | function => .function
  | classType => .classType
  | declarators | enumeration => .named
  | interfaceType => .interfaceType
  | typeAlias => .typeAlias
  | block => .wholeModule

/-- Whether there is nothing of the declaration when the program runs. -/
def isErased : DeclarationSort → Bool
  | interfaceType | typeAlias => true
  | function | classType | declarators | enumeration | block => false

end DeclarationSort

/-- A declaration with the name it is exported by. A pattern gives none to the variables in it. -/
structure Declaration where
  sort : DeclarationSort
  name? : Option String

namespace Declaration

def record? (d : Declaration) : Option ExportRecord :=
  d.name?.map fun name => ⟨name, d.sort.exportKind, d.sort.isErased⟩

/-- The records of an export statement around a declaration. -/
def records (byDefault : Bool) (d : Declaration) : List ExportRecord :=
  if byDefault then [⟨"default", .byDefault, false⟩] else d.record?.toList

end Declaration

/-! ## Statements -/

/-- An export statement as it is written. -/
inductive ExportForm
  | names (typed : Bool) (specs : List Specifier)
  | all (typed : Bool)
  | allAs (typed : Bool) (name : String)
  /-- A value behind the word `default`. -/
  | value
  /-- A value behind an equals sign. -/
  | assigned
  /-- A name for the whole module where modules are not in use. -/
  | global (name : String)
  /-- Another name for a member of a namespace. -/
  | member
  | declared (byDefault : Bool) (d : Declaration)
  /-- What stands behind the word `declare`; it need not be a declaration. -/
  | ambient (byDefault : Bool) (d? : Option Declaration)

namespace ExportForm

def records : ExportForm → List ExportRecord
  | names typed specs => specs.map fun s => ⟨s.binding, .named, typed || s.typed⟩
  | all typed => [⟨"*", .wholeModule, typed⟩]
  | allAs typed name => [⟨name, .wholeModule, typed⟩]
  | value | assigned => [⟨"default", .byDefault, false⟩]
  | global name => [⟨name, .wholeModule, false⟩]
  | member => []
  | declared byDefault d => d.records byDefault
  | ambient byDefault d? => d?.toList.flatMap (Declaration.records byDefault)

/-- Whether the records come from a declaration in the statement. -/
def wraps : ExportForm → Bool
  | declared .. | ambient .. => true
  | names .. | all _ | allAs .. | value | assigned | global _ | member => false

end ExportForm

/-! ## Trees of statements -/

/-- The nodes that an expression may be. -/
def expressionNodes : List String :=
  ["as_expression", "satisfies_expression", "instantiation_expression", "internal_module",
    "type_assertion", "jsx_element", "jsx_self_closing_element", "assignment_expression",
    "augmented_assignment_expression", "await_expression", "unary_expression", "binary_expression",
    "ternary_expression", "update_expression", "new_expression", "yield_expression",
    "subscript_expression", "member_expression", "parenthesized_expression", "undefined",
    "identifier", "this", "super", "number", "string", "template_string", "regex", "true", "false",
    "null", "object", "array", "function_expression", "arrow_function", "generator_function",
    "class", "meta_property", "call_expression", "non_null_expression"]

structure IsExpression (t : Tree) : Prop where
  named : t.named = true
  kind : t.kind ∈ expressionNodes
  field : t.field ≠ some "declaration"

theorem IsExpression.no_names {t : Tree} (h : IsExpression t) :
    t.kind ≠ "export_clause" ∧ t.kind ≠ "namespace_export" := by
  have kind (k : String) (new : k ∉ expressionNodes) : t.kind ≠ k := fun same => new (same ▸ h.kind)
  exact ⟨kind _ (by decide), kind _ (by decide)⟩

/-- What says nothing about an export: comments, decorators, the module that names come from, and
the words that are always there. -/
structure IsAside (t : Tree) : Prop where
  field : t.field ≠ some "declaration"
  named : t.named = true → t.kind ∈ ["comment", "html_comment", "decorator", "string"]
  token : t.named = false → t.kind ∈ ["export", "from", ";"]

/-- The node of a declaration. Of several variables the first one counts. -/
inductive Declaration.ShownBy : Declaration → Tree → Prop where
  | plain {sort : DeclarationSort} {name? : Option String} {node : Tree} {labels : List Tree}
      (kind : node.kind ∈ sort.nodes) (other : sort ≠ .declarators)
      (hlabels : Optionally (Names "name") name? labels)
      (children : Interspersed (fun c => c.field ≠ some "name") labels node.children) :
      ShownBy ⟨sort, name?⟩ node
  | declarators {node declarator pattern : Tree} {before behind : List Tree}
      (kind : node.kind ∈ DeclarationSort.declarators.nodes)
      (first : ∀ c ∈ before, c.named = true → c.kind ≠ "variable_declarator")
      (hdeclarator : declarator.named = true ∧ declarator.kind = "variable_declarator")
      (children : node.children = before ++ declarator :: behind)
      (hpattern : pattern.field = some "name")
      (inside : Interspersed (fun c => c.field ≠ some "name") [pattern] declarator.children) :
      ShownBy ⟨.declarators, if pattern.kind = "identifier" then some pattern.text else none⟩ node

/-- The nodes of an export statement that say what is exported. -/
inductive ExportForm.Parts : ExportForm → List Tree → Prop where
  | names {typed : Bool} {specs : List Specifier} {marks nodes : List Tree} {clause : Tree}
      (hmarks : Marks "type" typed marks) (hclause : clause.IsNode "export_clause")
      (hnodes : List.Forall₂ (Specifier.ShownBy "export_specifier") specs nodes)
      (children : Interspersed IsFiller nodes clause.children) :
      Parts (names typed specs) (marks ++ [clause])
  | all {typed : Bool} {marks : List Tree} {star : Tree} (hmarks : Marks "type" typed marks)
      (hstar : star.IsToken "*") : Parts (all typed) (marks ++ [star])
  | allAs {typed : Bool} {name : String} {marks before : List Tree} {node label : Tree}
      (hmarks : Marks "type" typed marks) (hnode : node.IsNode "namespace_export")
      (hlabel : label.Spells name) (children : node.children = before ++ [label]) :
      Parts (allAs typed name) (marks ++ [node])
  | value {word expression : Tree} (hword : word.IsToken "default")
      (hexpression : IsExpression expression) : Parts value [word, expression]
  | assigned {sign expression : Tree} (hsign : sign.IsToken "=")
      (hexpression : IsExpression expression) : Parts assigned [sign, expression]
  | global {name : String} {as space label : Tree} (has : as.IsToken "as")
      (hspace : space.IsToken "namespace") (hlabel : label.Says "identifier" name) :
      Parts (global name) [as, space, label]
  | member {word node : Tree} (hword : word.IsToken "import") (hnode : node.IsNode "import_alias") :
      Parts member [word, node]
  | memberDeclared {node : Tree} (kind : node.kind = "import_alias")
      (field : node.field = some "declaration") : Parts member [node]
  | declared {byDefault : Bool} {d : Declaration} {marks : List Tree} {node : Tree}
      (hmarks : Marks "default" byDefault marks) (field : node.field = some "declaration")
      (hnode : d.ShownBy node) : Parts (declared byDefault d) (marks ++ [node])
  | ambient {byDefault : Bool} {d? : Option Declaration} {marks nodes : List Tree} {wrapper : Tree}
      (hmarks : Marks "default" byDefault marks) (kind : wrapper.kind = "ambient_declaration")
      (field : wrapper.field = some "declaration")
      (hnodes : Optionally Declaration.ShownBy d? nodes)
      (children : Interspersed (fun c => c.category = .other) nodes wrapper.children) :
      Parts (ambient byDefault d?) (marks ++ [wrapper])

/-- The trees of an export statement. -/
def ExportForm.ShownBy (form : ExportForm) (t : Tree) : Prop :=
  t.kind = "export_statement" ∧ ∃ parts, form.Parts parts ∧ Interspersed IsAside parts t.children

/-! ## Nodes below a statement -/

namespace Tree

/-- No export statement is in a tree. -/
def FreeOfExports (t : Tree) : Prop := ∀ v ∈ preorder [] t, v.2.kind ≠ "export_statement"

instance (t : Tree) : Decidable t.FreeOfExports :=
  inferInstanceAs (Decidable (∀ v ∈ preorder [] t, v.2.kind ≠ "export_statement"))

theorem FreeOfExports.own {t : Tree} (h : t.FreeOfExports) : t.kind ≠ "export_statement" := by
  refine h ([], t) ?_
  rw [preorder_eq]
  exact List.mem_cons_self

theorem FreeOfExports.child {t c : Tree} (h : t.FreeOfExports) (hc : c ∈ t.children) :
    c.FreeOfExports := by
  intro v hv
  refine h (v.1 ++ [t], v.2) ?_
  rw [preorder_eq]
  refine List.mem_cons_of_mem _ (List.mem_flatMap.2 ⟨c, hc, ?_⟩)
  rw [preorder_below]
  exact List.mem_map_of_mem hv

theorem exports_eq_nil {around : List Tree} {t : Tree} (h : t.kind ≠ "export_statement")
    (alone : enclosingExport? around = none) : t.exports around = [] := by
  rw [exports_eq, if_neg h, declaredExport?, alone]
  simp

theorem enclosingExport?_statement {t : Tree} (h : t.kind = "export_statement")
    (around : List Tree) : enclosingExport? (t :: around) = some t := by
  simp [enclosingExport?, h]

/-- A child of a node has no export statement around it, but for what `declare` stands before. -/
theorem enclosingExport?_cons {t : Tree} {around : List Tree} (h : t.kind ≠ "export_statement")
    (wrapped : t.kind = "ambient_declaration" →
      ∀ s ∈ around.head?, s.kind ≠ "export_statement") :
    enclosingExport? (t :: around) = none := by
  by_cases ambient : t.kind = "ambient_declaration"
  · simpa [enclosingExport?, ambient, Option.filter_eq_none_iff] using wrapped ambient
  · simp [enclosingExport?, ambient, h]

/-- Where no export statement is in it, nothing is recorded below a node. -/
theorem exported_below_eq_nil {t : Tree} {around : List Tree} (free : t.FreeOfExports)
    (wrapped : t.kind = "ambient_declaration" →
      ∀ s ∈ around.head?, s.kind ≠ "export_statement") :
    t.children.flatMap (fun c => exported (preorder (t :: around) c)) = [] := by
  induction t using induct generalizing around with
  | node t ih =>
    -- Around a grandchild stand two nodes of the tree, so from there on nothing is asked of
    -- `around`.
    refine List.flatMap_eq_nil_iff.2 fun c hc => ?_
    have alone := enclosingExport?_cons free.own wrapped
    rw [exported_preorder, exports_eq_nil (free.child hc).own alone,
      ih c hc (free.child hc) fun _ => by simpa using free.own, List.append_nil]

theorem exported_eq {t : Tree} {around : List Tree} (free : t.FreeOfExports)
    (wrapped : t.kind = "ambient_declaration" →
      ∀ s ∈ around.head?, s.kind ≠ "export_statement") :
    exported (preorder around t) = t.exports around := by
  rw [exported_preorder, exported_below_eq_nil free wrapped, List.append_nil]

/-- A node that gives no record, wherever it stands. -/
structure IsPlain (t : Tree) : Prop where
  category : t.category = .other
  kind : t.kind ≠ "ambient_declaration"

theorem IsPlain.exported_eq_nil {t : Tree} (h : t.IsPlain) (free : t.FreeOfExports)
    (around : List Tree) : exported (preorder around t) = [] := by
  rw [exported_eq free fun ambient => absurd ambient h.kind, exports, h.category]

theorem IsPlain.of_kind {t : Tree} {kind : String} (h : t.kind = kind)
    (plain : Category.ofKind kind = .other ∧ kind ≠ "ambient_declaration") : t.IsPlain := by
  subst h
  exact ⟨plain.1, plain.2⟩

theorem IsPlain.of_mem {t : Tree} {kinds : List String} (h : t.kind ∈ kinds)
    (plain : ∀ k ∈ kinds, Category.ofKind k = .other ∧ k ≠ "ambient_declaration") : t.IsPlain :=
  .of_kind rfl (plain _ h)

end Tree

/-! ## Declarations in a statement -/

namespace Declaration

theorem exportKind?_of_mem {sort : DeclarationSort} {kind : String} (h : kind ∈ sort.nodes) :
    (Category.ofKind kind).exportKind? = some (sort.exportKind, sort.isErased) := by
  cases sort <;> simp only [DeclarationSort.nodes, List.mem_cons, List.not_mem_nil, or_false] at h
  all_goals obtain rfl | rfl | rfl := h <;> rfl

theorem category_of_mem {sort : DeclarationSort} {kind : String} (h : kind ∈ sort.nodes) :
    Category.ofKind kind = .variable ↔ sort = .declarators := by
  cases sort <;> simp only [DeclarationSort.nodes, List.mem_cons, List.not_mem_nil, or_false] at h
  all_goals obtain rfl | rfl | rfl := h <;> decide

theorem ShownBy.kind {d : Declaration} {node : Tree} (h : d.ShownBy node) :
    node.kind ∈ d.sort.nodes := by
  cases h <;> assumption

theorem ShownBy.kind_ne {d : Declaration} {node : Tree} {kind : String} (h : d.ShownBy node)
    (other : (Category.ofKind kind).exportKind? = none) : node.kind ≠ kind := by
  rintro rfl
  rw [exportKind?_of_mem h.kind] at other
  cases other

theorem ShownBy.declaredName? {d : Declaration} {node : Tree} (h : d.ShownBy node) :
    node.declaredName? = d.name? := by
  have role (c : Tree) (h : c.field ≠ some "name") : c.field ≠ some "name" := h
  cases h with
  | @plain sort name? _ labels kind other hlabels children =>
    have category : node.category ≠ .variable := fun same => other ((category_of_mem kind).1 same)
    have label := Tree.child?_eq children "name" role
    rw [Tree.declaredName?, label]
    split
    · contradiction
    · cases hlabels with
      | absent => rfl
      | present hlabel => simp [hlabel.field, hlabel.nameText]
  | @declarators _ declarator pattern before _ kind first hdeclarator children hpattern inside =>
    have category : node.category = .variable := (category_of_mem kind).2 rfl
    have found : node.first? "variable_declarator" = some declarator := by
      have none : (before.filter Tree.named).find? (·.kind == "variable_declarator") = none := by
        simpa using first
      rw [Tree.first?, Tree.namedChildren, children, List.filter_append, List.find?_append, none]
      simp [hdeclarator.1, hdeclarator.2]
    have name : declarator.child? "name" = some pattern := by
      rw [Tree.child?_eq inside "name" role]
      simp [hpattern]
    simp [Tree.declaredName?, category, found, name]

/-- A declaration gives its record to the statement around it. -/
theorem ShownBy.exports {d : Declaration} {node statement : Tree} {around : List Tree}
    (h : d.ShownBy node) (inside : Tree.enclosingExport? around = some statement) :
    node.exports around = d.records (statement.hasToken "default") := by
  have category : node.category.exportKind? = some (d.sort.exportKind, d.sort.isErased) :=
    exportKind?_of_mem h.kind
  rw [Tree.exports_eq, if_neg (h.kind_ne rfl), Tree.declaredExport?, inside, category,
    h.declaredName?]
  cases default : statement.hasToken "default" <;> cases name : d.name? <;>
    simp [records, record?, default, name, defaultName]

end Declaration

/-! ## Children of a statement -/

namespace IsAside

variable {t : Tree}

theorem plain (h : IsAside t) : t.IsPlain := by
  cases named : t.named with
  | true => exact .of_mem (h.named named) (by decide)
  | false => exact .of_mem (h.token named) (by decide)

theorem kind_ne {kind : String} (h : IsAside t) (named : t.named = true)
    (new : kind ∉ ["comment", "html_comment", "decorator", "string"]) : t.kind ≠ kind :=
  fun same => new (same ▸ h.named named)

theorem token_ne {word : String} (h : IsAside t) (token : t.named = false)
    (new : word ∉ ["export", "from", ";"]) : t.kind ≠ word :=
  fun same => new (same ▸ h.token token)

end IsAside

theorem Tree.Marks.plain {word : String} {marked : Bool} {marks : List Tree}
    (h : Marks word marked marks)
    (plain : Category.ofKind word = .other ∧ word ≠ "ambient_declaration") :
    ∀ c ∈ marks, c.IsPlain := by
  cases h with
  | absent => simp
  | present token => simpa using IsPlain.of_kind token.kind plain

namespace ExportForm

variable {form : ExportForm} {parts around : List Tree} {t : Tree}

/-- No part of a statement that holds no declaration gives a record, if no block stands where a
value may stand. -/
theorem Parts.plain (h : form.Parts parts) (whole : form.wraps = false)
    (noBlock : ∀ c ∈ parts, c.kind = "internal_module" → c.field = some "declaration") :
    ∀ c ∈ parts, c.IsPlain := by
  -- Of all expressions only a block has a category.
  have expression {c : Tree} (hc : c ∈ parts) (h : IsExpression c) : c.IsPlain := by
    have kind : c.kind ∈ expressionNodes.erase "internal_module" :=
      (List.mem_erase_of_ne fun block => h.field (noBlock c hc block)).2 h.kind
    exact .of_mem kind (by decide)
  cases h with
  | names hmarks hclause =>
    exact List.forall_mem_append.2
      ⟨hmarks.plain (by decide), by simpa using .of_kind hclause.kind (by decide)⟩
  | all hmarks hstar =>
    exact List.forall_mem_append.2
      ⟨hmarks.plain (by decide), by simpa using .of_kind hstar.kind (by decide)⟩
  | allAs hmarks hnode =>
    exact List.forall_mem_append.2
      ⟨hmarks.plain (by decide), by simpa using .of_kind hnode.kind (by decide)⟩
  | value hword hexpression =>
    simpa using ⟨.of_kind hword.kind (by decide), expression (by simp) hexpression⟩
  | assigned hsign hexpression =>
    simpa using ⟨.of_kind hsign.kind (by decide), expression (by simp) hexpression⟩
  | global has hspace hlabel =>
    simpa using ⟨.of_kind has.kind (by decide), .of_kind hspace.kind (by decide),
      .of_kind hlabel.kind (by decide)⟩
  | member hword hnode =>
    simpa using ⟨.of_kind hword.kind (by decide), .of_kind hnode.kind (by decide)⟩
  | memberDeclared kind => simpa using .of_kind kind (by decide)
  | declared => cases whole
  | ambient => cases whole

/-! ## The statement itself -/

theorem child?_declaration (h : Interspersed IsAside parts t.children) :
    t.child? "declaration" = parts.find? fun c => c.field == some "declaration" :=
  Tree.child?_eq h "declaration" fun _ aside => aside.field

theorem first?_of_parts (h : Interspersed IsAside parts t.children) {kind : String}
    (new : kind ∉ ["comment", "html_comment", "decorator", "string"]) :
    t.first? kind = parts.find? fun c => c.named && c.kind == kind :=
  Tree.first?_eq h kind fun _ aside named => aside.kind_ne named new

theorem hasToken_of_parts (h : Interspersed IsAside parts t.children) {word : String}
    (new : word ∉ ["export", "from", ";"]) :
    t.hasToken word = parts.any fun c => !c.named && c.kind == word :=
  Tree.hasToken_eq h word fun _ aside token => aside.token_ne token new

theorem specifiers_of_clause {specs : List Specifier} {nodes : List Tree} {clause : Tree}
    (hnodes : List.Forall₂ (Specifier.ShownBy "export_specifier") specs nodes)
    (children : Interspersed IsFiller nodes clause.children) :
    (clause.namedChildren.filter fun c => c.kind == "export_specifier") = nodes := by
  have out (c : Tree) (hc : c.IsFiller) : (c.kind == "export_specifier" && c.named) = false := by
    simpa using fun same named => hc.kind_ne named (by decide) same
  have all (c : Tree) (hc : c ∈ nodes) : (c.kind == "export_specifier" && c.named) = true := by
    have node := Specifier.isNode_of_shown hnodes c hc
    simp [node.named, node.kind]
  rw [Tree.namedChildren, List.filter_filter, children.filter_eq _ out, List.filter_eq_self.2 all]

theorem map_specifiers {specs : List Specifier} {nodes : List Tree}
    (hnodes : List.Forall₂ (Specifier.ShownBy "export_specifier") specs nodes) (typed : Bool) :
    nodes.map (fun c => (⟨c.binding, .named, typed || c.hasToken "type"⟩ : ExportRecord)) =
      (names typed specs).records := by
  induction hnodes with
  | nil => rfl
  | cons hnode _ ih =>
    rw [List.map_cons, ih, hnode.binding, hnode.hasToken]
    rfl

/-- A statement leaves the records to the declaration in it, or it gives them itself. -/
theorem Parts.ownExports (h : form.Parts parts) (children : Interspersed IsAside parts t.children) :
    t.ownExports = if form.wraps then [] else form.records := by
  -- From here on all searches are among the parts.
  simp (disch := decide) only [Tree.ownExports, child?_declaration children,
    first?_of_parts children, hasToken_of_parts children]
  cases h with
  | names hmarks hclause hnodes inside =>
    have specifiers := specifiers_of_clause hnodes inside
    cases hmarks with
    | absent =>
      simpa [hclause.named, hclause.kind, hclause.field, specifiers, wraps] using
        map_specifiers hnodes false
    | present token =>
      simpa [token.named, token.kind, token.field, hclause.named, hclause.kind, hclause.field,
        specifiers, wraps] using map_specifiers hnodes true
  | all hmarks hstar =>
    cases hmarks with
    | absent => simp [hstar.named, hstar.kind, hstar.field, records, wraps]
    | present token =>
      simp [token.named, token.kind, token.field, hstar.named, hstar.kind, hstar.field, records,
        wraps]
  | allAs hmarks hnode hlabel inside =>
    cases hmarks with
    | absent =>
      simp [hnode.named, hnode.kind, hnode.field, Tree.namedChildren, inside, hlabel.named,
        hlabel.nameText, records, wraps]
    | present token =>
      simp [token.named, token.kind, token.field, hnode.named, hnode.kind, hnode.field,
        Tree.namedChildren, inside, hlabel.named, hlabel.nameText, records, wraps]
  | value hword hexpression =>
    obtain ⟨clause, whole⟩ := hexpression.no_names
    simp [hword.named, hword.kind, hword.field, hexpression.named, hexpression.field, clause, whole,
      records, wraps, defaultName]
  | assigned hsign hexpression =>
    obtain ⟨clause, whole⟩ := hexpression.no_names
    simp [hsign.named, hsign.kind, hsign.field, hexpression.named, hexpression.field, clause, whole,
      records, wraps, defaultName]
  | global has hspace hlabel =>
    simp [has.named, has.kind, has.field, hspace.named, hspace.kind, hspace.field, hlabel.named,
      hlabel.kind, hlabel.field, hlabel.text, records, wraps]
  | member hword hnode =>
    simp [hword.named, hword.kind, hword.field, hnode.named, hnode.kind, hnode.field, records,
      wraps]
  | memberDeclared kind field => simp [field, wraps, records]
  | declared hmarks field =>
    cases hmarks with
    | absent => simp [field, wraps]
    | present token => simp [token.field, field, wraps]
  | ambient hmarks kind field =>
    cases hmarks with
    | absent => simp [field, wraps]
    | present token => simp [token.field, field, wraps]

/-! ## The declaration in the statement -/

theorem hasToken_default {byDefault : Bool} {marks : List Tree} {node : Tree}
    (h : Marks "default" byDefault marks) (other : node.kind ≠ "default")
    (children : Interspersed IsAside (marks ++ [node]) t.children) :
    t.hasToken "default" = byDefault := by
  rw [hasToken_of_parts children (by decide), List.any_append, h.any_eq]
  simp [other]

theorem exported_declared {d : Declaration} {node : Tree} (h : d.ShownBy node)
    (free : node.FreeOfExports) (inside : Tree.enclosingExport? around = some t) :
    Tree.exported (Tree.preorder around node) = d.records (t.hasToken "default") := by
  rw [Tree.exported_eq free fun ambient => absurd ambient (h.kind_ne rfl), h.exports inside]

theorem exported_ambient {d? : Option Declaration} {nodes : List Tree} {wrapper : Tree}
    (kind : wrapper.kind = "ambient_declaration") (hnodes : Optionally Declaration.ShownBy d? nodes)
    (children : Interspersed (fun c => c.category = .other) nodes wrapper.children)
    (free : wrapper.FreeOfExports) (statement : t.kind = "export_statement") :
    Tree.exported (Tree.preorder (t :: around) wrapper) =
      d?.toList.flatMap (Declaration.records (t.hasToken "default")) := by
  have inside : Tree.enclosingExport? (wrapper :: t :: around) = some t := by
    simp [Tree.enclosingExport?, kind, statement]
  have own : wrapper.exports (t :: around) = [] := by
    simp [Tree.exports, Tree.category, kind, Category.ofKind]
  -- A second `declare` may stand among these; it looks for the statement one node too low.
  have out (c : Tree) (hc : c ∈ wrapper.children) (other : c.category = .other) :
      Tree.exported (Tree.preorder (wrapper :: t :: around) c) = [] := by
    rw [Tree.exported_eq (free.child hc) fun _ => by simpa using free.own, Tree.exports, other]
  rw [Tree.exported_preorder, own, List.nil_append, children.flatMap_eq _ out]
  cases hnodes with
  | absent => rfl
  | present h =>
    simp [exported_declared h (free.child (children.mem List.mem_cons_self)) inside]

/-- Only the parts of a statement give records to it. -/
theorem exported_children (children : Interspersed IsAside parts t.children)
    (free : ∀ c ∈ t.children, c.FreeOfExports) (around : List Tree) :
    t.children.flatMap (fun c => Tree.exported (Tree.preorder (t :: around) c)) =
      parts.flatMap fun c => Tree.exported (Tree.preorder (t :: around) c) :=
  children.flatMap_eq _ fun c hc aside => aside.plain.exported_eq_nil (free c hc) _

theorem exported_behind_default {byDefault : Bool} {marks : List Tree}
    (h : Marks "default" byDefault marks) (free : ∀ c ∈ marks, c.FreeOfExports)
    (around : List Tree) (node : Tree) :
    (marks ++ [node]).flatMap (fun c => Tree.exported (Tree.preorder around c)) =
      Tree.exported (Tree.preorder around node) := by
  have mark : marks.flatMap (fun c => Tree.exported (Tree.preorder around c)) = [] :=
    List.flatMap_eq_nil_iff.2 fun c hc =>
      (h.plain (by decide) c hc).exported_eq_nil (free c hc) around
  rw [List.flatMap_append, mark, List.nil_append, List.flatMap_singleton]

/-- What is below a statement gives the records that the statement leaves to it. -/
theorem Parts.exported_below (h : form.Parts parts)
    (children : Interspersed IsAside parts t.children) (statement : t.kind = "export_statement")
    (free : ∀ c ∈ t.children, c.FreeOfExports)
    (noBlock : ∀ c ∈ t.children, c.kind = "internal_module" → c.field = some "declaration")
    (around : List Tree) :
    t.children.flatMap (fun c => Tree.exported (Tree.preorder (t :: around) c)) =
      if form.wraps then form.records else [] := by
  have free' (c : Tree) (hc : c ∈ parts) : c.FreeOfExports := free c (children.mem hc)
  rw [exported_children children free]
  cases whole : form.wraps with
  | false =>
    have plain := h.plain whole fun c hc => noBlock c (children.mem hc)
    exact List.flatMap_eq_nil_iff.2 fun c hc => (plain c hc).exported_eq_nil (free' c hc) _
  | true =>
    cases h with
    | declared hmarks field hnode =>
      obtain ⟨marks, node⟩ := List.forall_mem_append.1 free'
      rw [exported_behind_default hmarks marks,
        exported_declared hnode (node _ List.mem_cons_self)
          (Tree.enclosingExport?_statement statement around),
        hasToken_default hmarks (hnode.kind_ne rfl) children]
      rfl
    | ambient hmarks kind field hnodes inside =>
      obtain ⟨marks, wrapper⟩ := List.forall_mem_append.1 free'
      rw [exported_behind_default hmarks marks,
        exported_ambient kind hnodes inside (wrapper _ List.mem_cons_self) statement,
        hasToken_default hmarks (by simp [kind]) children]
      rfl
    | _ => cases whole

/-- Whatever stands between its parts, an export statement gives each record of what is written
once: by itself, or by the declaration in it. That a block is not taken for a value is needed. -/
theorem recorded_once {form : ExportForm} {t : Tree} (h : form.ShownBy t)
    (free : ∀ c ∈ t.children, c.FreeOfExports)
    (noBlock : ∀ c ∈ t.children, c.kind = "internal_module" → c.field = some "declaration")
    (around : List Tree) :
    Tree.exported (Tree.preorder around t) = form.records ∧
    t.ownExports = (if form.wraps then [] else form.records) ∧
    t.children.flatMap (fun c => Tree.exported (Tree.preorder (t :: around) c)) =
      if form.wraps then form.records else [] := by
  obtain ⟨statement, parts, hparts, children⟩ := h
  have own := hparts.ownExports children
  have below := hparts.exported_below children statement free noBlock around
  refine ⟨?_, own, below⟩
  rw [Tree.exported_preorder, Tree.exports_eq, if_pos statement, own, below]
  cases form.wraps <;> simp

namespace Sample

open Tree.Sample

def declarator (name : String) : Tree :=
  node "variable_declarator" none [leaf "identifier" (some "name") name]

def declaration : Tree :=
  node "lexical_declaration" none [token "const", declarator "v", token ",", declarator "w"]

/-- Two variables behind the word `declare`, with a comment. -/
def declared : Tree :=
  node "export_statement" none
    [token "export", leaf "comment" none "/* c */",
      node "ambient_declaration" (some "declaration") [token "declare", declaration]]

theorem token_isAside {word : String} (h : word ∈ ["export", "from", ";"]) :
    IsAside (token word) :=
  ⟨nofun, nofun, fun _ => h⟩

theorem comment_isAside (text : String) : IsAside (leaf "comment" none text) :=
  ⟨nofun, fun _ => List.mem_cons_self, nofun⟩

theorem declaration_shows : Declaration.ShownBy ⟨.declarators, some "v"⟩ declaration :=
  @Declaration.ShownBy.declarators _ (declarator "v") _ [token "const"] _ (by decide) (by decide)
    ⟨rfl, rfl⟩ rfl rfl (.keep .nil)

theorem declared_shows : (ambient false (some ⟨.declarators, some "v"⟩)).ShownBy declared :=
  ⟨rfl, _, .ambient .absent rfl rfl (.present declaration_shows)
    (.between (by decide) (.keep .nil)),
    .between (token_isAside (by decide)) (.between (comment_isAside _) (.keep .nil))⟩

end Sample

theorem recorded_once_sample :
    (ambient false (some ⟨.declarators, some "v"⟩)).ShownBy Sample.declared ∧
    Tree.exported (Tree.preorder [] Sample.declared) = [⟨"v", .named, false⟩] ∧
    Sample.declared.ownExports = [] ∧
    Sample.declared.children.flatMap (fun c =>
      Tree.exported (Tree.preorder [Sample.declared] c)) = [⟨"v", .named, false⟩] :=
  ⟨Sample.declared_shows, recorded_once Sample.declared_shows (by decide) (by decide) []⟩

/-! ## Blocks in the place of a value -/

/-- A block in the place of a value is recorded as a declaration too. -/
theorem block_recorded_too {d : Declaration} {word block : Tree} (h : form.Parts [word, block])
    (whole : form.wraps = false) (hword : word.IsPlain) (hblock : d.ShownBy block)
    (children : Interspersed IsAside [word, block] t.children)
    (statement : t.kind = "export_statement") (free : ∀ c ∈ t.children, c.FreeOfExports) :
    Tree.exported (Tree.preorder around t) = form.records ++ d.records (t.hasToken "default") := by
  have enclosing := Tree.enclosingExport?_statement statement around
  have freeWord := free word (children.mem List.mem_cons_self)
  have freeBlock := free block (children.mem (List.mem_cons_of_mem _ List.mem_cons_self))
  rw [Tree.exported_preorder, Tree.exports_eq, if_pos statement, h.ownExports children, whole,
    exported_children children free, List.flatMap_cons, List.flatMap_singleton,
    hword.exported_eq_nil freeWord, exported_declared hblock freeBlock enclosing]
  rfl

/-- A block behind an equals sign. -/
def Sample.assignedBlock : Tree :=
  Tree.Sample.node "export_statement" none
    [Tree.Sample.token "export", Tree.Sample.token "=",
      Tree.Sample.node "internal_module" none
        [Tree.Sample.token "namespace", Tree.Sample.leaf "identifier" (some "name") "A",
          Tree.Sample.node "statement_block" (some "body")
            [Tree.Sample.token "\x7b", Tree.Sample.token "\x7d"]]]

theorem Sample.assignedBlock_shows : assigned.ShownBy Sample.assignedBlock :=
  ⟨rfl, _, .assigned (Tree.Sample.token_isToken "=") ⟨rfl, by decide, by decide⟩,
    .between (token_isAside (by decide)) (.keep (.keep .nil))⟩

/-- The one record of a value is not the only one when the value is a block. -/
theorem not_recorded_once_of_block :
    assigned.ShownBy Sample.assignedBlock ∧
    (∀ c ∈ Sample.assignedBlock.children, c.FreeOfExports) ∧
    assigned.records = [⟨"default", .byDefault, false⟩] ∧
    Sample.assignedBlock.declarations.exports =
      [⟨"default", .byDefault, false⟩, ⟨"A", .wholeModule, false⟩] ∧
    Tree.exported (Tree.preorder [] Sample.assignedBlock) ≠ assigned.records :=
  ⟨Sample.assignedBlock_shows, by decide, rfl, by decide, by decide⟩

end ExportForm

end ModuleAtlas
