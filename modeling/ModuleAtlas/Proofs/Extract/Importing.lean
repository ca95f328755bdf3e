import ModuleAtlas.Proofs.Extract.Siblings

/-!
# Reading import statements

An import statement is given as it is written, and with it the trees that show it, with any comments
and punctuation in between. From each of these trees the same record is read.

## Main definitions

* `ImportStatement` — a module, and what is imported from it.
* `ImportStatement.record` — its record.
* `ImportStatement.ShownBy` — the trees of an import statement.
-/
namespace ModuleAtlas

open ModuleAtlas.Tree (IsFiller IsNode Marks Quotes Says Specifier)

/-! ## Statements -/

/-- What an import clause has behind its default import. -/
inductive ImportedNames
  | nothing
  | whole (name : String)
  | braces (specs : List Specifier)

namespace ImportedNames

def names : ImportedNames → List String
  | nothing => []
  | whole name => [name]
  | braces specs => specs.map Specifier.binding

def kind : ImportedNames → ImportKind
  | nothing => .byDefault
  | whole _ => .wholeModule
  | braces _ => .named

/-- Whether there are names, and each is marked as a type. -/
def allTyped : ImportedNames → Bool
  | nothing | whole _ => false
  | braces specs => !specs.isEmpty && specs.all Specifier.typed

end ImportedNames

inductive ImportForm
  /-- The module is only run. -/
  | bare
  | required (name : String)
  | clause (default? : Option String) (names : ImportedNames)

namespace ImportForm

def names : ImportForm → List String
  | bare => []
  | required name => [name]
  | clause default? rest => default?.toList ++ rest.names

def kind : ImportForm → ImportKind
  | bare => .sideEffect
  | required _ => .byDefault
  | clause _ rest => rest.kind

def allTyped : ImportForm → Bool
  | bare | required _ => false
  | clause default? rest => default?.isNone && rest.allTyped

end ImportForm

/-- An import statement as it is written. -/
structure ImportStatement where
  typed : Bool
  specifier : String
  form : ImportForm

namespace ImportStatement

def record (s : ImportStatement) : ImportRecord :=
  ⟨s.specifier, s.form.names, s.form.kind, s.typed || s.form.allTyped⟩

end ImportStatement

/-! ## Trees of statements -/

/-- The node of the module that an import names. -/
structure ShowsModule (specifier : String) (t : Tree) : Prop where
  named : t.named = true
  kind : t.kind = "string"
  field : t.field = some "source"
  text : Quotes t.text specifier

/-- The nodes in an import clause behind its default import. -/
inductive ImportedNames.ShownBy : ImportedNames → List Tree → Prop where
  | nothing : ShownBy nothing []
  | whole {name : String} {node label : Tree} (hnode : node.IsNode "namespace_import")
      (hlabel : label.Says "identifier" name)
      (children : Interspersed IsFiller [label] node.children) : ShownBy (whole name) [node]
  | braces {specs : List Specifier} {node : Tree} {nodes : List Tree}
      (hnode : node.IsNode "named_imports")
      (hnodes : List.Forall₂ (Specifier.ShownBy "import_specifier") specs nodes)
      (children : Interspersed IsFiller nodes node.children) : ShownBy (braces specs) [node]

/-- The nodes of an import statement behind the mark of a type. -/
inductive ImportForm.ShownBy (specifier : String) : ImportForm → List Tree → Prop where
  | bare {source : Tree} (hsource : ShowsModule specifier source) :
      ShownBy specifier bare [source]
  | required {name : String} {node label source : Tree}
      (hnode : node.IsNode "import_require_clause") (hlabel : label.Says "identifier" name)
      (hsource : ShowsModule specifier source)
      (children : Interspersed IsFiller [label, source] node.children) :
      ShownBy specifier (required name) [node]
  | clause {default? : Option String} {rest : ImportedNames} {node source : Tree}
      {labels nodes : List Tree} (hnode : node.IsNode "import_clause")
      (hlabels : Optionally (Says "identifier") default? labels) (hrest : rest.ShownBy nodes)
      (children : Interspersed IsFiller (labels ++ nodes) node.children)
      (hsource : ShowsModule specifier source) :
      ShownBy specifier (clause default? rest) [node, source]

/-- The trees of an import statement. -/
def ImportStatement.ShownBy (s : ImportStatement) (t : Tree) : Prop :=
  t.kind = "import_statement" ∧ ∃ marks parts,
    Marks "type" s.typed marks ∧ s.form.ShownBy s.specifier parts ∧
    Interspersed IsFiller (marks ++ parts) t.children

/-! ## Import clauses -/

theorem ImportedNames.ShownBy.named {rest : ImportedNames} {nodes : List Tree}
    (h : rest.ShownBy nodes) : ∀ c ∈ nodes, c.named = true := by
  cases h with
  | nothing => simp
  | whole hnode => simpa using hnode.named
  | braces hnode => simpa using hnode.named

namespace Tree.Bindings

theorem foldl_addSpecifier {specs : List Specifier} {nodes : List Tree}
    (h : List.Forall₂ (Specifier.ShownBy "import_specifier") specs nodes) (b : Bindings) :
    nodes.foldl addSpecifier b =
      { b with
        names := b.names ++ specs.map Specifier.binding
        specifiers := b.specifiers + specs.length
        typedSpecifiers := b.typedSpecifiers + specs.countP Specifier.typed } := by
  induction h generalizing b with
  | nil => simp
  | @cons spec node specs nodes hnode _ ih =>
    have step : b.addSpecifier node =
        ⟨b.names ++ [spec.binding], b.hasDefault, b.hasNamespace, b.hasBraces, b.specifiers + 1,
          b.typedSpecifiers + if spec.typed then 1 else 0⟩ := by
      rw [addSpecifier, hnode.1.kind, hnode.binding, hnode.hasToken]
      rfl
    rw [List.foldl_cons, step, ih]
    simp only [List.map_cons, List.length_cons, List.countP_cons, List.append_assoc,
      List.singleton_append, mk.injEq, true_and]
    omega

theorem add_whole {name : String} {node label : Tree} (hnode : node.IsNode "namespace_import")
    (hlabel : label.Says "identifier" name) (children : Interspersed IsFiller [label] node.children)
    (b : Bindings) : b.add node = { b with hasNamespace := true, names := b.names ++ [name] } := by
  have found : node.first? "identifier" = some label := by
    rw [first?_eq children "identifier" fun c hc named => hc.kind_ne named (by decide)]
    simp [hlabel.named, hlabel.kind]
  simp [add, hnode.kind, found, hlabel.text]

theorem add_braces {specs : List Specifier} {node : Tree} {nodes : List Tree}
    (hnode : node.IsNode "named_imports")
    (hnodes : List.Forall₂ (Specifier.ShownBy "import_specifier") specs nodes)
    (children : Interspersed IsFiller nodes node.children) (b : Bindings) : b.add node =
      { b with
        hasBraces := true
        names := b.names ++ specs.map Specifier.binding
        specifiers := b.specifiers + specs.length
        typedSpecifiers := b.typedSpecifiers + specs.countP Specifier.typed } := by
  have named : ∀ c ∈ nodes, c.named = true :=
    fun c hc => (Specifier.isNode_of_shown hnodes c hc).named
  have out (c : Tree) (hc : c.IsFiller) (hn : c.named = true) (b : Bindings) :
      b.addSpecifier c = b := by
    rw [addSpecifier, if_neg (by simpa using hc.kind_ne hn (by decide))]
  simp only [add, hnode.kind, foldl_namedChildren children named addSpecifier out,
    foldl_addSpecifier hnodes]

theorem add_filler {c : Tree} (h : c.IsFiller) (named : c.named = true) (b : Bindings) :
    b.add c = b := by
  have kinds := h.named named
  simp only [List.mem_cons, List.not_mem_nil, or_false] at kinds
  obtain kind | kind | kind := kinds <;> simp [add, kind]

/-- What is read from an import clause. -/
def ofClause (default? : Option String) : ImportedNames → Bindings
  | .nothing => ⟨default?.toList, default?.isSome, false, false, 0, 0⟩
  | .whole name => ⟨default?.toList ++ [name], default?.isSome, true, false, 0, 0⟩
  | .braces specs =>
    ⟨default?.toList ++ specs.map Specifier.binding, default?.isSome, false, true, specs.length,
      specs.countP Specifier.typed⟩

theorem foldl_add {default? : Option String} {rest : ImportedNames} {clause : Tree}
    {labels nodes : List Tree} (hlabels : Optionally (Says "identifier") default? labels)
    (hrest : rest.ShownBy nodes)
    (children : Interspersed IsFiller (labels ++ nodes) clause.children) :
    clause.namedChildren.foldl add .none = ofClause default? rest := by
  have named : ∀ c ∈ labels ++ nodes, c.named = true :=
    List.forall_mem_append.2 ⟨hlabels.forall_mem fun _ _ h => h.named, hrest.named⟩
  have labelled : labels.foldl add .none = ofClause default? .nothing := by
    cases hlabels with
    | absent => rfl
    | present h => simp [add, h.kind, h.text, ofClause, Bindings.none]
  rw [foldl_namedChildren children named add fun c hc hn => add_filler hc hn, List.foldl_append,
    labelled]
  cases hrest with
  | nothing => rfl
  | whole hnode hlabel inside => exact add_whole hnode hlabel inside _
  | braces hnode hnodes inside =>
    rw [List.foldl_cons, add_braces hnode hnodes inside]
    simp [ofClause]

theorem names_ofClause (default? : Option String) (rest : ImportedNames) :
    (ofClause default? rest).names = default?.toList ++ rest.names := by
  cases rest <;> simp [ofClause, ImportedNames.names]

theorem kind_ofClause (default? : Option String) (rest : ImportedNames) :
    (ofClause default? rest).kind = rest.kind := by
  cases rest <;> rfl

theorem allTyped_ofClause (default? : Option String) (rest : ImportedNames) :
    (ofClause default? rest).allTyped = (default?.isNone && rest.allTyped) := by
  cases rest with
  | nothing => simp [ofClause, allTyped, ImportedNames.allTyped]
  | whole name => simp [ofClause, allTyped, ImportedNames.allTyped]
  | braces specs =>
    have every :
        specs.countP Specifier.typed = specs.length ↔ specs.all Specifier.typed = true := by
      rw [List.countP_eq_length, List.all_eq_true]
    rw [Bool.eq_iff_iff]
    cases specs <;> simp_all [ofClause, allTyped, ImportedNames.allTyped, and_comm]

end Tree.Bindings

/-! ## Statements as a whole -/

theorem ImportForm.ShownBy.named {specifier : String} {form : ImportForm} {parts : List Tree}
    (h : form.ShownBy specifier parts) : ∀ c ∈ parts, c.named = true := by
  cases h with
  | bare hsource => simpa using hsource.named
  | required hnode => simpa using hnode.named
  | clause hnode _ _ _ hsource => simpa using ⟨hnode.named, hsource.named⟩

namespace ImportStatement

theorem names_required {name specifier : String} {node label source : Tree}
    (hlabel : label.Says "identifier" name) (hsource : ShowsModule specifier source)
    (children : Interspersed IsFiller [label, source] node.children) :
    node.first? "identifier" = some label ∧ node.child? "source" = some source := by
  rw [Tree.first?_eq children "identifier" fun c hc named => hc.kind_ne named (by decide),
    Tree.child?_eq children "source" fun c hc => by simp [hc.field]]
  simp [hlabel.named, hlabel.kind, hlabel.field, hsource.field]

/-- Whatever stands between its parts, an import statement gives the one record of what is written.
-/
theorem shown_gives_record {s : ImportStatement} {t : Tree} (h : s.ShownBy t) :
    t.importRecord? = some s.record ∧ t.imports = [s.record] := by
  obtain ⟨isTyped, specifier, form⟩ := s
  obtain ⟨kind, marks, parts, typed, shown, children⟩ := h
  -- The mark of a type has no field and no name, so only the search for tokens meets it.
  have source : t.child? "source" = parts.find? fun c => c.field == some "source" := by
    rw [Tree.child?_eq children "source" fun c hc => by simp [hc.field],
      typed.find?_append parts _ fun c token => by simp [token.field]]
  have first (kind : String) (new : kind ∉ ["comment", "html_comment", "import_attribute"]) :
      t.first? kind = parts.find? fun c => c.named && c.kind == kind := by
    rw [Tree.first?_eq children kind fun c hc named => hc.kind_ne named new,
      typed.find?_append parts _ fun c token => by simp [token.named]]
  have typeOnly : t.hasToken "type" = isTyped := by
    have tokens : parts.any (fun c => !c.named && c.kind == "type") = false := by
      simpa using fun c hc named => absurd (shown.named c hc) (by simp [named])
    rw [Tree.hasToken_eq children "type" fun c hc => hc.token, List.any_append, typed.any_eq,
      tokens, Bool.or_false]
  have read : t.importRecord? =
      some ⟨specifier, form.names, form.kind, isTyped || form.allTyped⟩ := by
    rw [Tree.importRecord?, source, first _ (by decide), first _ (by decide), typeOnly]
    cases shown with
    | bare hsource =>
      have text := hsource.text.unquoted
      simp [hsource.kind, hsource.field, text, ImportForm.names, ImportForm.kind,
        ImportForm.allTyped]
    | required hnode hlabel hsource inside =>
      have text := hsource.text.unquoted
      obtain ⟨label, module⟩ := names_required hlabel hsource inside
      simp [hnode.named, hnode.kind, hnode.field, label, module, text, hlabel.text,
        ImportForm.names, ImportForm.kind, ImportForm.allTyped]
    | clause hnode hlabels hrest inside hsource =>
      have text := hsource.text.unquoted
      have bindings := Tree.Bindings.foldl_add hlabels hrest inside
      simp [hnode.named, hnode.kind, hnode.field, hsource.kind, hsource.field, text, bindings,
        Tree.Bindings.names_ofClause, Tree.Bindings.kind_ofClause,
        Tree.Bindings.allTyped_ofClause, ImportForm.names, ImportForm.kind, ImportForm.allTyped]
  refine ⟨read, ?_⟩
  rw [Tree.imports, Tree.category, kind, read]
  rfl

end ImportStatement

namespace ImportStatement.Sample

open Tree.Sample

/-- An import of a default, and of two names of which one is a type and the other is renamed. -/
def statement : ImportStatement :=
  ⟨false, "./m", .clause (some "d") (.braces [⟨true, "a", none⟩, ⟨false, "b", some "c"⟩])⟩

def first : Tree := node "import_specifier" none [token "type", leaf "identifier" (some "name") "a"]

def second : Tree :=
  node "import_specifier" none
    [leaf "identifier" (some "name") "b", token "as", leaf "identifier" (some "alias") "c"]

def braces : Tree :=
  node "named_imports" none [token "\x7b", first, token ",", second, token "\x7d"]

def clause : Tree :=
  node "import_clause" none
    [leaf "identifier" none "d", token ",", leaf "comment" none "/* c */", braces]

def source : Tree := leaf "string" (some "source") "\"./m\""

def tree : Tree :=
  node "import_statement" none [token "import", clause, token "from", source, token ";"]

theorem first_shows : Specifier.ShownBy "import_specifier" ⟨true, "a", none⟩ first :=
  ⟨⟨rfl, rfl, rfl⟩, _, _, _, .present (token_isToken "type"), leaf_names "name" "a", .absent,
    .keep (.keep .nil)⟩

theorem second_shows : Specifier.ShownBy "import_specifier" ⟨false, "b", some "c"⟩ second :=
  ⟨⟨rfl, rfl, rfl⟩, _, _, _, .absent, leaf_names "name" "b", .present (leaf_names "alias" "c"),
    .keep (.between (token_isFiller (by decide)) (.keep .nil))⟩

theorem braces_shows :
    ImportedNames.ShownBy (.braces [⟨true, "a", none⟩, ⟨false, "b", some "c"⟩]) [braces] :=
  .braces ⟨rfl, rfl, rfl⟩ (.cons first_shows (.cons second_shows .nil))
    (.between (token_isFiller (by decide)) (.keep (.between (token_isFiller (by decide))
      (.keep (.between (token_isFiller (by decide)) .nil)))))

theorem clause_shows : statement.form.ShownBy "./m" [clause, source] :=
  .clause ⟨rfl, rfl, rfl⟩ (.present (leaf_shown "identifier" "d")) braces_shows
    (.keep (.between (token_isFiller (by decide)) (.between (comment_isFiller _) (.keep .nil))))
    ⟨rfl, rfl, rfl, '"', .inr (.inl rfl), rfl⟩

theorem tree_shows : statement.ShownBy tree :=
  ⟨rfl, _, _, .absent, clause_shows,
    .between (token_isFiller (by decide)) (.keep (.between (token_isFiller (by decide))
      (.keep (.between (token_isFiller (by decide)) .nil))))⟩

end ImportStatement.Sample

theorem ImportStatement.shown_gives_record_sample :
    Sample.statement.ShownBy Sample.tree ∧
    Sample.tree.importRecord? = some ⟨"./m", ["d", "a", "c"], .named, false⟩ ∧
    Sample.tree.imports = [⟨"./m", ["d", "a", "c"], .named, false⟩] :=
  ⟨Sample.tree_shows, shown_gives_record Sample.tree_shows⟩

end ModuleAtlas
