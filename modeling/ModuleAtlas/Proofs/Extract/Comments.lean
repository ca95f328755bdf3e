import ModuleAtlas.Proofs.Extract.Siblings
import ModuleAtlas.Proofs.Extract.Worklist
import ModuleAtlas.Proofs.Rows

/-!
# Comments

A comment may stand between two neighbouring nodes. No search for a field, for a kind of node or for
a token finds it, so the records of a tree are the same with and without comments. Only the texts of
names are read off the tree, and a text has in it what is put into its node: so this holds where no
comment is put into a name. Tokens and strings never have one in them, but a name made of several
ones may.

## Main definitions

* `Between` — a row with extra elements between neighbours.
* `Tree.Commented` — a tree, and the same tree with comments in it.
* `Tree.names` — the nodes that the names and the modules in the records are read from.
-/
namespace ModuleAtlas

/-! ## Rows with something between neighbours -/

/-- A row, and the same row with extra elements between its neighbours. -/
inductive Between {α : Type} (extra : α → Prop) : List α → List α → Prop where
  | nil : Between extra [] []
  | last (x : α) : Between extra [x] [x]
  | next (x : α) {y : α} {extras xs ys : List α} (h : ∀ e ∈ extras, extra e)
      (rest : Between extra (y :: xs) ys) : Between extra (x :: y :: xs) (x :: (extras ++ ys))

namespace Between

variable {α : Type} {extra : α → Prop} {xs ys : List α}

theorem refl : (xs : List α) → Between extra xs xs
  | [] => .nil
  | [x] => .last x
  | x :: y :: xs => .next x (List.forall_mem_nil extra) (refl (y :: xs))

/-- One element that is put between neighbours. -/
theorem insert {e : α} (he : extra e) {front back : List α} (hfront : front ≠ [])
    (hback : back ≠ []) : Between extra (front ++ back) (front ++ e :: back) := by
  obtain ⟨y, back, rfl⟩ := List.exists_cons_of_ne_nil hback
  induction front with
  | nil => contradiction
  | cons x front ih =>
    cases front with
    | nil => exact @next _ _ x y [e] _ _ (List.forall_mem_singleton.2 he) (refl (y :: back))
    | cons z front =>
      exact @next _ _ x z [] _ _ (List.forall_mem_nil extra) (ih (List.cons_ne_nil z front))

theorem interspersed (h : Between extra xs ys) : Interspersed extra xs ys := by
  induction h with
  | nil => exact .nil
  | last x => exact .keep .nil
  | @next x y extras xs ys all _ ih =>
    refine .keep ?_
    clear * - all ih
    induction extras with
    | nil => exact ih
    | cons e extras inner =>
      have ⟨first, others⟩ := List.forall_mem_cons.1 all
      exact .between first (inner others)

/-- Nothing is put behind the last element. -/
theorem getLast?_eq (h : Between extra xs ys) : ys.getLast? = xs.getLast? := by
  induction h with
  | nil => rfl
  | last x => rfl
  | @next x y extras xs ys _ _ ih =>
    rw [List.getLast?_cons_cons, ← List.cons_append, List.getLast?_append, ih, List.getLast?_cons]
    rfl

end Between

namespace Tree

/-! ## Trees with comments in them -/

/-- A comment, with no role of its own. -/
structure IsComment (t : Tree) : Prop where
  kind : t.kind = "comment"
  named : t.named = true
  field : t.field = none
  children : t.children = []

/-- A token, a string, or one more node that no comment is put into. -/
def IsKept (whole : Tree → Prop) (t : Tree) : Prop := t.children = [] ∨ t.kind = "string" ∨ whole t

/-- A tree, and the same tree with comments between neighbouring nodes. Tokens and strings keep
their texts, and so do some more nodes, those that are `whole`. Any other node may have got another
text. The places and the marks of errors are not compared. -/
inductive Commented (whole : Tree → Prop) : Tree → Tree → Prop where
  | node {t t' : Tree} {parts : List Tree} (kind : t'.kind = t.kind) (named : t'.named = t.named)
      (field : t'.field = t.field)
      (text : IsKept whole t → t'.text = t.text)
      (below : List.Forall₂ (Commented whole) t.children parts)
      (row : Between IsComment parts t'.children) : Commented whole t t'

instance {whole : Tree → Prop} [DecidablePred whole] : DecidablePred (IsKept whole) :=
  fun _ => inferInstanceAs (Decidable (_ ∨ _ ∨ _))

namespace Commented

variable {whole : Tree → Prop}

theorem refl (t : Tree) : Commented whole t t := by
  induction t using induct with
  | node t ih => exact .node rfl rfl rfl (fun _ => rfl) (List.forall₂_same.2 ih) (.refl _)

/-- A comment that is put between two neighbours. -/
theorem insert {t c : Tree} {front back : List Tree} (children : t.children = front ++ back)
    (comment : c.IsComment) (hfront : front ≠ []) (hback : back ≠ []) (text : String)
    (inner : ¬ IsKept whole t) :
    Commented whole t { t with children := front ++ c :: back, text := text } := by
  refine .node rfl rfl rfl (fun kept => absurd kept inner)
    (List.forall₂_same.2 fun n _ => refl n) ?_
  rw [children]
  exact .insert comment hfront hback

/-- A node with a child that comments are put into. -/
theorem child {t c c' : Tree} {front back : List Tree} (children : t.children = front ++ c :: back)
    (h : Commented whole c c') (text : String) (inner : ¬ IsKept whole t) :
    Commented whole t { t with children := front ++ c' :: back, text := text } := by
  have same (ts : List Tree) : List.Forall₂ (Commented whole) ts ts :=
    List.forall₂_same.2 fun n _ => refl n
  refine .node rfl rfl rfl (fun kept => absurd kept inner) ?_ (.refl _)
  rw [children]
  exact List.rel_append (same front) (.cons h (same back))

end Commented

/-! ## Names -/

/-- The node with the local name of an import or export specifier. -/
def bindingNode (t : Tree) : Tree := ((t.child? "alias").or (t.child? "name")).getD t

/-- The specifiers of a kind among the children of a node. -/
def specifiers (kind : String) (t : Tree) : List Tree :=
  t.namedChildren.filter fun c => c.kind == kind

/-- The names in a child of an import clause. -/
def clauseNames (t : Tree) : List Tree :=
  match t.kind with
  | "identifier" => [t]
  | "namespace_import" => (t.first? "identifier").toList
  | "named_imports" => (t.specifiers "import_specifier").map bindingNode
  | _ => []

/-- The module and the names that the record of an import statement is made of. -/
def importNames (t : Tree) : List Tree :=
  let required := t.first? "import_require_clause"
  ((t.child? "source").or (required.bind fun r => r.child? "source")).toList ++
    match required, t.first? "import_clause" with
    | some r, _ => (r.first? "identifier").toList
    | none, some clause => clause.namedChildren.flatMap clauseNames
    | none, none => []

/-- The names in an export statement itself. -/
def exportNames (t : Tree) : List Tree :=
  if (t.child? "declaration").isSome then []
  else
    match t.first? "export_clause", t.first? "namespace_export" with
    | some clause, _ => (clause.specifiers "export_specifier").map bindingNode
    | none, some whole => whole.namedChildren.getLast?.toList
    | none, none =>
      if t.hasToken "as" && t.hasToken "namespace" then (t.first? "identifier").toList else []

/-- The node with the name that a declaration declares. -/
def declaredNode? (t : Tree) : Option Tree :=
  match t.category with
  | .variable =>
    (t.first? "variable_declarator").bind fun d =>
      (d.child? "name").filter fun n => n.kind == "identifier"
  | _ => t.child? "name"

/-- The names that the records of a node are made of. A declaration is read only if there is an
export statement around it that has not the word `default`. -/
def ownNames (around : List Tree) (t : Tree) : List Tree :=
  match t.category with
  | .importing => t.importNames
  | .exporting => t.exportNames
  | .other => []
  | _ =>
    match (enclosingExport? around).filter fun s => !s.hasToken "default" with
    | some _ => t.declaredNode?.toList
    | none => []

/-- The names that the records of a tree are made of. -/
def names (t : Tree) : List Tree := (preorder [] t).flatMap fun v => v.2.ownNames v.1

/-! ## Corresponding nodes -/

namespace Commented

variable {whole : Tree → Prop} {t t' : Tree}

theorem kind_eq (h : Commented whole t t') : t'.kind = t.kind := by
  cases h
  assumption

theorem named_eq (h : Commented whole t t') : t'.named = t.named := by
  cases h
  assumption

theorem field_eq (h : Commented whole t t') : t'.field = t.field := by
  cases h
  assumption

theorem category_eq (h : Commented whole t t') : t'.category = t.category := by
  rw [category, h.kind_eq, category]

/-- The children correspond, up to the comments. -/
theorem rows (h : Commented whole t t') : ∃ parts,
    List.Forall₂ (Commented whole) t.children parts ∧ Interspersed IsComment parts t'.children := by
  cases h with
  | node _ _ _ _ below row => exact ⟨_, below, row.interspersed⟩

theorem namedRows (h : Commented whole t t') : ∃ parts,
    List.Forall₂ (Commented whole) t.namedChildren parts ∧
      Interspersed IsComment parts t'.namedChildren := by
  obtain ⟨parts, below, row⟩ := h.rows
  exact ⟨parts.filter named, List.rel_filter (fun _ _ h => by simp only [h.named_eq]) below,
    row.filter named⟩

theorem child? (h : Commented whole t t') (field : String) :
    Option.Rel (Commented whole) (t.child? field) (t'.child? field) := by
  obtain ⟨parts, below, row⟩ := h.rows
  rw [child?_eq row field fun c hc => by simp [hc.field]]
  exact find?_rel below fun x y hxy => by rw [hxy.field_eq]

theorem first? (h : Commented whole t t') (kind : String) (other : "comment" ≠ kind) :
    Option.Rel (Commented whole) (t.first? kind) (t'.first? kind) := by
  obtain ⟨parts, below, row⟩ := h.namedRows
  rw [Tree.first?, Tree.first?, row.find?_eq _ fun c hc => by simp [hc.kind, other]]
  exact find?_rel below fun x y hxy => by rw [hxy.kind_eq]

theorem hasToken (h : Commented whole t t') (kind : String) :
    t'.hasToken kind = t.hasToken kind := by
  obtain ⟨parts, below, row⟩ := h.rows
  rw [Tree.hasToken, Tree.hasToken, row.any_eq _ fun c hc => by simp [hc.named]]
  exact any_rel below fun x y hxy => by rw [hxy.named_eq, hxy.kind_eq]

theorem specifiers (h : Commented whole t t') (kind : String) (other : "comment" ≠ kind) :
    List.Forall₂ (Commented whole) (t.specifiers kind) (t'.specifiers kind) := by
  obtain ⟨parts, below, row⟩ := h.namedRows
  rw [Tree.specifiers, Tree.specifiers, row.filter_eq _ fun c hc => by simp [hc.kind, other]]
  exact List.rel_filter (fun x y hxy => by simp only [hxy.kind_eq]) below

theorem text_eq (h : Commented whole t t') (kept : IsKept whole t) : t'.text = t.text := by
  cases h with
  | node _ _ _ text _ _ => exact text kept

theorem nameText_eq (h : Commented whole t t') (kept : IsKept whole t) :
    t'.nameText = t.nameText := by
  rw [nameText, h.kind_eq, h.text_eq kept, nameText]

/-- Texts that are read off nodes that are there in both trees or in none. -/
theorem map_text_eq {o o' : Option Tree} (h : Option.Rel (Commented whole) o o')
    (kept : ∀ n ∈ o.toList, IsKept whole n) : o'.map text = o.map text := by
  cases h with
  | some hn => exact congrArg some (hn.text_eq (kept _ List.mem_cons_self))
  | none => rfl

theorem map_nameText_eq {o o' : Option Tree} (h : Option.Rel (Commented whole) o o')
    (kept : ∀ n ∈ o.toList, IsKept whole n) : o'.map nameText = o.map nameText := by
  cases h with
  | some hn => exact congrArg some (hn.nameText_eq (kept _ List.mem_cons_self))
  | none => rfl

end Commented

/-! ## Specifiers -/

theorem binding_eq {t : Tree} (specifier : t.kind ≠ "string") :
    t.binding = t.bindingNode.nameText := by
  have own : t.nameText = t.text := by simp [nameText, specifier]
  rw [binding, bindingNode]
  cases (t.child? "alias").or (t.child? "name") with
  | none => exact own.symm
  | some b => rfl

theorem Commented.bindingNode {whole : Tree → Prop} {t t' : Tree} (h : Commented whole t t') :
    Commented whole t.bindingNode t'.bindingNode :=
  getD_rel (or_rel (h.child? "alias") (h.child? "name")) h

theorem Commented.binding_eq {whole : Tree → Prop} {t t' : Tree} (h : Commented whole t t')
    (specifier : t.kind ≠ "string") (kept : IsKept whole t.bindingNode) :
    t'.binding = t.binding := by
  rw [Tree.binding_eq specifier, Tree.binding_eq (by rwa [h.kind_eq]),
    h.bindingNode.nameText_eq kept]

/-! ## Imports -/

namespace Commented

variable {whole : Tree → Prop} {t t' : Tree}

theorem addSpecifier_eq (h : Commented whole t t')
    (kept : t.kind = "import_specifier" → IsKept whole t.bindingNode) (b : Bindings) :
    b.addSpecifier t' = b.addSpecifier t := by
  rw [Bindings.addSpecifier, Bindings.addSpecifier, h.kind_eq]
  split
  · next specifier =>
    have kind : t.kind = "import_specifier" := eq_of_beq specifier
    rw [h.binding_eq (by simp [kind]) (kept kind), h.hasToken]
  · rfl

theorem addSpecifier_comment {c : Tree} (h : c.IsComment) (b : Bindings) :
    b.addSpecifier c = b := by
  simp [Bindings.addSpecifier, h.kind]

theorem add_comment {c : Tree} (h : c.IsComment) (b : Bindings) : b.add c = b := by
  simp [Bindings.add, h.kind]

/-- A child of an import clause binds what it binds without the comments. -/
theorem add_eq (h : Commented whole t t') (kept : ∀ n ∈ t.clauseNames, IsKept whole n)
    (b : Bindings) : b.add t' = b.add t := by
  rw [Bindings.add, Bindings.add, h.kind_eq]
  rw [clauseNames] at kept
  split
  · next kind =>
    rw [kind] at kept
    rw [h.text_eq (kept t List.mem_cons_self)]
  · next kind =>
    rw [kind] at kept
    rw [map_text_eq (h.first? "identifier" (by decide)) kept]
  · next kind =>
    rw [kind] at kept
    obtain ⟨parts, below, row⟩ := h.namedRows
    rw [row.foldl_eq _ fun c hc => addSpecifier_comment hc]
    refine foldl_rel below (fun s hs s' hss' => hss'.addSpecifier_eq fun specifier => ?_) _
    have listed : s ∈ t.specifiers "import_specifier" :=
      List.mem_filter.2 ⟨hs, beq_iff_eq.2 specifier⟩
    exact kept _ (List.mem_map_of_mem listed)
  · rfl

/-- A clause binds what it binds without the comments. -/
theorem clause_eq (h : Commented whole t t')
    (kept : ∀ n ∈ t.namedChildren.flatMap clauseNames, IsKept whole n) (b : Bindings) :
    t'.namedChildren.foldl Bindings.add b = t.namedChildren.foldl Bindings.add b := by
  obtain ⟨parts, below, row⟩ := h.namedRows
  rw [row.foldl_eq _ fun c hc => add_comment hc]
  exact foldl_rel below (fun c hc c' hcc' => hcc'.add_eq fun n hn =>
    kept n (List.mem_flatMap.2 ⟨c, hc, hn⟩)) b

theorem importRecord?_eq (h : Commented whole t t') (kept : ∀ n ∈ t.importNames, IsKept whole n) :
    t'.importRecord? = t.importRecord? := by
  have required := h.first? "import_require_clause" (by decide)
  have clause := h.first? "import_clause" (by decide)
  have source := or_rel (h.child? "source") (bind_rel required fun _ _ hr => hr.child? "source")
  rw [importNames, List.forall_mem_append] at kept
  obtain ⟨module, rest⟩ := kept
  simp only [importRecord?, h.hasToken]
  generalize (t.child? "source").or _ = s at *
  generalize (t'.child? "source").or _ = s' at *
  generalize t.first? "import_require_clause" = r at *
  generalize t'.first? "import_require_clause" = r' at *
  generalize t.first? "import_clause" = c at *
  generalize t'.first? "import_clause" = c' at *
  cases source with
  | none => rfl
  | some hs =>
    have same := hs.text_eq (module _ List.mem_cons_self)
    cases required with
    | some hr => simp only [same, map_text_eq (hr.first? "identifier" (by decide)) rest]
    | none =>
      cases clause with
      | none => simp only [same]
      | some hc => simp only [same, hc.clause_eq rest]

end Commented

/-! ## Exports -/

/-- A node with a last child that is named, as the grammar has it for exports of a whole module. -/
def EndsWithName (t : Tree) : Prop := t.children.getLast?.any named = true

instance : DecidablePred EndsWithName := fun _ => inferInstanceAs (Decidable (_ = _))

theorem getLast?_namedChildren {t c : Tree} (last : t.children.getLast? = some c)
    (named : c.named = true) : t.namedChildren.getLast? = some c := by
  obtain ⟨front, children⟩ := List.getLast?_eq_some_iff.1 last
  rw [namedChildren, children, List.filter_append, List.filter_cons_of_pos named, List.filter_nil,
    List.getLast?_concat]

namespace Commented

variable {whole : Tree → Prop} {t t' : Tree}

/-- No comment is behind the name at the end of a node. -/
theorem last (h : Commented whole t t') (ends : t.EndsWithName) :
    Option.Rel (Commented whole) t.namedChildren.getLast? t'.namedChildren.getLast? := by
  cases h with
  | node _ _ _ _ below row =>
    have same := getLast?_rel below
    rw [← row.getLast?_eq] at same
    rw [EndsWithName] at ends
    cases last : t.children.getLast? with
    | none => simp [last] at ends
    | some n =>
      have named : n.named = true := by simpa [last] using ends
      cases last' : t'.children.getLast? with
      | none =>
        rw [last, last'] at same
        nomatch same
      | some n' =>
        rw [last, last'] at same
        obtain ⟨hn⟩ := same
        rw [getLast?_namedChildren last named,
          getLast?_namedChildren last' (by rw [hn.named_eq, named])]
        exact .some hn

theorem clauseExports_eq (h : Commented whole t t')
    (kept : ∀ n ∈ (t.specifiers "export_specifier").map Tree.bindingNode, IsKept whole n)
    (typeOnly : Bool) :
    ((t'.namedChildren.filter fun c => c.kind == "export_specifier").map fun spec =>
      (⟨spec.binding, .named, typeOnly || spec.hasToken "type"⟩ : ExportRecord)) =
    (t.namedChildren.filter fun c => c.kind == "export_specifier").map fun spec =>
      ⟨spec.binding, .named, typeOnly || spec.hasToken "type"⟩ := by
  refine map_rel (h.specifiers "export_specifier" (by decide)) fun s hs s' hss' => ?_
  have kind : s.kind = "export_specifier" := eq_of_beq (List.mem_filter.1 hs).2
  rw [hss'.binding_eq (by simp [kind]) (kept _ (List.mem_map_of_mem hs)), hss'.hasToken]

theorem ownExports_eq (h : Commented whole t t') (kept : ∀ n ∈ t.exportNames, IsKept whole n)
    (ends : ∀ n ∈ t.children, n.kind = "namespace_export" → n.EndsWithName) :
    t'.ownExports = t.ownExports := by
  have declaration := h.child? "declaration"
  have clause := h.first? "export_clause" (by decide)
  have all := h.first? "namespace_export" (by decide)
  have alone := h.first? "identifier" (by decide)
  have allEnds : ∀ n, t.first? "namespace_export" = some n → n.EndsWithName := fun n found =>
    ends n (List.mem_filter.1 (List.mem_of_find?_eq_some found)).1
      (by simpa using List.find?_some found)
  rw [exportNames] at kept
  simp only [ownExports, h.hasToken]
  generalize t.child? "declaration" = d at *
  generalize t'.child? "declaration" = d' at *
  generalize t.first? "export_clause" = c at *
  generalize t'.first? "export_clause" = c' at *
  generalize t.first? "namespace_export" = n at *
  generalize t'.first? "namespace_export" = n' at *
  generalize t.first? "identifier" = i at *
  generalize t'.first? "identifier" = i' at *
  cases declaration with
  | some _ => rfl
  | none =>
    cases clause with
    | some hc => simp only [hc.clauseExports_eq kept]
    | none =>
      cases all with
      | some hn => simp only [map_nameText_eq (hn.last (allEnds _ rfl)) kept]
      | none =>
        simp only [Option.isSome_none, Bool.false_eq_true, if_false] at kept ⊢
        split
        · rfl
        split
        · rfl
        split
        · rfl
        split
        · next words =>
          rw [if_pos words] at kept
          have same := map_text_eq alone kept
          cases alone with
          | some _ => simpa using same
          | none => rfl
        · rfl

end Commented

/-! ## Declarations -/

theorem declaredName?_eq (t : Tree) : t.declaredName? = t.declaredNode?.map nameText := by
  rw [declaredName?, declaredNode?]
  cases t.category with
  | «variable» =>
    cases t.first? "variable_declarator" with
    | none => rfl
    | some d =>
      simp only [Option.bind_eq_bind, Option.bind_some]
      cases d.child? "name" with
      | none => rfl
      | some n =>
        by_cases kind : n.kind = "identifier" <;> simp [kind, nameText, Option.filter_some]
  | _ => rfl

namespace Commented

variable {whole : Tree → Prop} {t t' : Tree} {around around' : List Tree}

theorem declaredNode? (h : Commented whole t t') :
    Option.Rel (Commented whole) t.declaredNode? t'.declaredNode? := by
  rw [Tree.declaredNode?, Tree.declaredNode?, h.category_eq]
  split
  · refine bind_rel (h.first? "variable_declarator" (by decide)) fun d d' hd => ?_
    exact filter_rel (hd.child? "name") fun n n' hn => by rw [hn.kind_eq]
  · exact h.child? "name"

theorem enclosingExport? (outer : List.Forall₂ (Commented whole) around around') :
    Option.Rel (Commented whole) (enclosingExport? around) (enclosingExport? around') := by
  cases outer with
  | nil => exact .none
  | cons hp rest =>
    rw [Tree.enclosingExport?, Tree.enclosingExport?, hp.kind_eq]
    refine filter_rel ?_ fun s s' hs => by rw [hs.kind_eq]
    split
    · cases rest with
      | nil => exact .none
      | cons hq _ => exact .some hq
    · exact .some hp

theorem declaredExport?_eq (h : Commented whole t t')
    (outer : List.Forall₂ (Commented whole) around around')
    (kept : ∀ s, Tree.enclosingExport? around = some s → s.hasToken "default" = false →
      ∀ n ∈ t.declaredNode?.toList, IsKept whole n) :
    t'.declaredExport? around' = t.declaredExport? around := by
  have statement := enclosingExport? outer
  rw [declaredExport?, declaredExport?, h.category_eq, declaredName?_eq, declaredName?_eq]
  generalize Tree.enclosingExport? around = s at *
  generalize Tree.enclosingExport? around' = s' at *
  cases statement with
  | none => rfl
  | @some a a' hs =>
    simp only [Option.bind_eq_bind, Option.bind_some, hs.hasToken]
    split
    · rfl
    · next words =>
      rw [map_nameText_eq h.declaredNode? (kept a rfl (by simpa using words))]

/-- The records of a node are the same with and without comments. -/
theorem exports_eq (h : Commented whole t t')
    (outer : List.Forall₂ (Commented whole) around around')
    (kept : ∀ n ∈ t.ownNames around, IsKept whole n)
    (ends : ∀ n ∈ t.children, n.kind = "namespace_export" → n.EndsWithName) :
    t'.exports around' = t.exports around := by
  have declared (own : t.ownNames around =
      match (Tree.enclosingExport? around).filter fun s => !s.hasToken "default" with
      | some _ => t.declaredNode?.toList
      | none => []) : t'.declaredExport? around' = t.declaredExport? around := by
    refine h.declaredExport?_eq outer fun s found words n hn => kept n ?_
    simpa [own, found, words, Option.filter] using hn
  rw [exports, exports, h.category_eq]
  rw [ownNames] at kept declared
  cases category : t.category with
  | importing => rfl
  | other => rfl
  | exporting =>
    rw [category] at kept
    exact h.ownExports_eq kept ends
  | _ =>
    rw [category] at declared
    simp only [declared rfl]

theorem imports_eq (h : Commented whole t t') (kept : ∀ n ∈ t.ownNames around, IsKept whole n) :
    t'.imports = t.imports := by
  rw [imports, imports, h.category_eq]
  split
  · next category =>
    rw [ownNames, category] at kept
    rw [h.importRecord?_eq kept]
  · rfl

end Commented

/-! ## Whole trees -/

theorem IsComment.no_records {c : Tree} (h : c.IsComment) (around : List Tree) :
    c.imports = [] ∧ c.exports around = [] := by
  have category : c.category = .other := by rw [category, h.kind]; rfl
  simp [imports, exports, category]

/-- What is collected from the nodes of a tree is the same with and without comments, if it is so
node by node. -/
theorem Commented.collect_eq {α : Type} {whole : Tree → Prop} {t t' : Tree}
    {around around' : List Tree} (h : Commented whole t t')
    (outer : List.Forall₂ (Commented whole) around around') (f : List Tree × Tree → List α)
    (nothing : ∀ around c, c.IsComment → f (around, c) = [])
    (same : ∀ v ∈ preorder around t, ∀ around' n', List.Forall₂ (Commented whole) v.1 around' →
      Commented whole v.2 n' → f (around', n') = f v) :
    (preorder around' t').flatMap f = (preorder around t).flatMap f := by
  induction t using induct generalizing around t' around' with
  | node t ih =>
    obtain ⟨parts, below, row⟩ := h.rows
    rw [preorder_eq, preorder_eq] at *
    have ⟨own, others⟩ := List.forall_mem_cons.1 same
    have comment : ∀ c ∈ t'.children, c.IsComment →
        (preorder (t' :: around') c).flatMap f = [] := by
      intro c _ hc
      rw [preorder_eq, hc.children]
      simp [nothing _ c hc]
    have each : ∀ c ∈ t.children, ∀ c', Commented whole c c' →
        (preorder (t' :: around') c').flatMap f = (preorder (t :: around) c).flatMap f :=
      fun c hc c' hcc' => ih c hc hcc' (.cons h outer) fun v hv =>
        others v (List.mem_flatMap.2 ⟨c, hc, hv⟩)
    rw [List.flatMap_cons, List.flatMap_cons, own around' t' outer h, List.flatMap_assoc,
      List.flatMap_assoc, row.flatMap_eq _ comment, flatMap_rel below each]

/-- Comments never change the records, if none is put into a name: each name is a token, a string or
one more node that is kept whole, and exports of a whole module end with theirs. -/
theorem comments_change_nothing {whole : Tree → Prop} {t t' : Tree} (h : Commented whole t t')
    (kept : ∀ n ∈ t.names, IsKept whole n)
    (ends : ∀ n ∈ t.nodes, n.kind = "namespace_export" → n.EndsWithName) :
    t'.declarations = t.declarations := by
  have own : ∀ v ∈ preorder [] t, ∀ n ∈ v.2.ownNames v.1, IsKept whole n :=
    fun v hv n hn => kept n (List.mem_flatMap.2 ⟨v, hv, hn⟩)
  have below : ∀ v ∈ preorder [] t, ∀ n ∈ v.2.children, n.kind = "namespace_export" →
      n.EndsWithName := fun v hv n hn =>
    ends n (mem_nodes_trans (mem_nodes_of_mem_preorder hv) (child_mem_nodes hn))
  have top : List.Forall₂ (Commented whole) [] [] := .nil
  have imports := h.collect_eq top (fun v => v.2.imports)
    (fun around c hc => (hc.no_records around).1)
    fun v hv around' n' _ hn => hn.imports_eq (own v hv)
  have exports := h.collect_eq top (fun v => v.2.exports v.1)
    (fun around c hc => (hc.no_records around).2)
    fun v hv around' n' outer hn => hn.exports_eq outer (own v hv) (below v hv)
  rw [Tree.declarations_eq, Tree.declarations_eq, declared, declared, imports, exports]

/-! ## A name with a comment in it -/

/-- A tree in which the text of a node is made of the texts of its children. -/
def Composed (t : Tree) : Prop :=
  ∀ n ∈ t.nodes, n.children ≠ [] → n.text = String.join (n.children.map text)

instance : DecidablePred Composed := fun t =>
  inferInstanceAs (Decidable (∀ n ∈ t.nodes, n.children ≠ [] → _ = _))

namespace Sample

/-- A node with the text that its children have together. -/
def joined (kind : String) (field : Option String) (children : List Tree) : Tree :=
  { node kind field children with text := String.join (children.map text) }

def comment : Tree := leaf "comment" none "/* c */"

/-- A name of two parts, and what stands behind the first. -/
def dottedName (between : List Tree) : Tree :=
  joined "nested_identifier" (some "name")
    (leaf "identifier" (some "object") "A" :: between ++
      [token ".", leaf "property_identifier" (some "property") "B"])

def block : Tree := joined "statement_block" (some "body") [token "\x7b", token "\x7d"]

/-- A namespace with a name of two parts. -/
def dottedBlock (between : List Tree) : Tree :=
  joined "internal_module" (some "declaration") [token "namespace", dottedName between, block]

/-- The export of a namespace, and what stands behind the first word and in the name. -/
def dottedExport (front between : List Tree) : Tree :=
  joined "export_statement" none (token "export" :: front ++ [dottedBlock between])

def dotted (front between : List Tree) : Tree :=
  joined "program" none [dottedExport front between]

theorem comment_isComment : comment.IsComment := ⟨rfl, rfl, rfl, rfl⟩

end Sample

theorem comments_change_nothing_sample :
    Commented (fun n => n.kind = "nested_identifier") (Sample.dotted [] [])
      (Sample.dotted [Sample.comment] []) ∧
    (Sample.dotted [Sample.comment] []).declarations = (Sample.dotted [] []).declarations := by
  have statement : Commented (fun n => n.kind = "nested_identifier")
      (Sample.dottedExport [] []) (Sample.dottedExport [Sample.comment] []) :=
    .insert (show _ = [Sample.token "export"] ++ [Sample.dottedBlock []] from rfl)
      Sample.comment_isComment (by decide) (by decide) _ (by decide)
  have program : Commented (fun n => n.kind = "nested_identifier") (Sample.dotted [] [])
      (Sample.dotted [Sample.comment] []) :=
    .child (show _ = [] ++ [Sample.dottedExport [] []] from rfl) statement _ (by decide)
  exact ⟨program, comments_change_nothing program (by decide) (by decide)⟩

/-- A comment in a name of several parts gets into the name of the export. -/
theorem comment_changes_dotted_name :
    Commented (fun _ => False) (Sample.dotted [] []) (Sample.dotted [] [Sample.comment]) ∧
    Composed (Sample.dotted [] []) ∧ Composed (Sample.dotted [] [Sample.comment]) ∧
    (∀ n ∈ (Sample.dotted [] []).nodes, n.kind = "namespace_export" → n.EndsWithName) ∧
    (Sample.dotted [] []).declarations = ⟨[], [⟨"A.B", .wholeModule, false⟩]⟩ ∧
    (Sample.dotted [] [Sample.comment]).declarations =
      ⟨[], [⟨"A/* c */.B", .wholeModule, false⟩]⟩ := by
  have name : Commented (fun _ => False) (Sample.dottedName [])
      (Sample.dottedName [Sample.comment]) :=
    .insert (show _ = [Sample.leaf "identifier" (some "object") "A"] ++
        [Sample.token ".", Sample.leaf "property_identifier" (some "property") "B"] from rfl)
      Sample.comment_isComment (by decide) (by decide) _ (by decide)
  have block : Commented (fun _ => False) (Sample.dottedBlock [])
      (Sample.dottedBlock [Sample.comment]) :=
    .child (show _ = [Sample.token "namespace"] ++ Sample.dottedName [] :: [Sample.block] from rfl)
      name _ (by decide)
  have statement : Commented (fun _ => False) (Sample.dottedExport [] [])
      (Sample.dottedExport [] [Sample.comment]) :=
    .child (show _ = [Sample.token "export"] ++ [Sample.dottedBlock []] from rfl) block _
      (by decide)
  exact ⟨.child (show _ = [] ++ [Sample.dottedExport [] []] from rfl) statement _ (by decide),
    by decide, by decide, by decide, by decide, by decide⟩

end Tree

end ModuleAtlas
