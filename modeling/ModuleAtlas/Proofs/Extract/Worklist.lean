import ModuleAtlas.Proofs.Tree.Order
import ModuleAtlas.Proofs.Extract.Firsts

/-!
# Collecting with a worklist

A worklist visits the nodes of its trees in document order, for its next tree gives way to the
children of that tree. So what it collects are the imports of all nodes in document order, and the
exports of all nodes without the repetitions.

## Main definitions

* `Tree.Worklist.Visits` — what a worklist visits until it is empty.
-/
namespace ModuleAtlas

namespace Tree

/-! ## Visits -/

/-- What a worklist visits until it is empty. -/
inductive Worklist.Visits : Worklist → List (List Tree × Tree) → Prop where
  | done : Visits [] []
  | next {around : List Tree} {t : Tree} {rest : Worklist} {visits : List (List Tree × Tree)}
      (behind : Visits (t.children.map (t :: around, ·) ++ rest) visits) :
      Visits ((around, t) :: rest) ((around, t) :: visits)

namespace Worklist

theorem Visits.unique {w : Worklist} {visits visits' : List (List Tree × Tree)}
    (h : Visits w visits) (h' : Visits w visits') : visits = visits' := by
  induction h generalizing visits' with
  | done =>
    cases h'
    rfl
  | next _ ih =>
    cases h' with
    | next behind => rw [ih behind]

/-- The nodes of the next tree are visited in document order, and then what comes behind it. -/
theorem Visits.push {rest : Worklist} {visits : List (List Tree × Tree)} (h : Visits rest visits)
    (around : List Tree) (t : Tree) :
    Visits ((around, t) :: rest) (preorder around t ++ visits) := by
  induction t using induct generalizing around rest visits with
  | node t ih =>
    have children (ts : List Tree) (hts : ∀ c ∈ ts, c ∈ t.children) :
        Visits (ts.map (t :: around, ·) ++ rest)
          (ts.flatMap (preorder (t :: around)) ++ visits) := by
      induction ts with
      | nil => exact h
      | cons c ts ihts =>
        have ⟨hc, hts⟩ := List.forall_mem_cons.1 hts
        rw [List.flatMap_cons, List.append_assoc]
        exact ih c hc (ihts hts) (t :: around)
    rw [preorder_eq]
    exact .next (children t.children fun _ hc => hc)

theorem visits_preorder (t : Tree) : Visits [([], t)] (preorder [] t) := by
  simpa using Visits.done.push [] t

/-- With enough fuel a worklist collects the records of all that it visits. -/
theorem Visits.run {w : Worklist} {visits : List (List Tree × Tree)} (h : Visits w visits)
    {fuel : Nat} (enough : visits.length ≤ fuel) (d : Declarations) :
    run fuel w d = visits.foldl Declarations.add d := by
  induction h generalizing fuel d with
  | done => cases fuel <;> rfl
  | next _ ih =>
    obtain ⟨fuel, rfl⟩ : ∃ n, fuel = n + 1 := Nat.exists_eq_add_one.2 (Nat.zero_lt_of_lt enough)
    rw [Worklist.run, ih (Nat.le_of_succ_le_succ enough), List.foldl_cons]

end Worklist

/-! ## Records -/

/-- The records that the nodes of a row of visits give. -/
def imported (visits : List (List Tree × Tree)) : List ImportRecord :=
  visits.flatMap fun v => v.2.imports

def exported (visits : List (List Tree × Tree)) : List ExportRecord :=
  visits.flatMap fun v => v.2.exports v.1

theorem foldl_add (visits : List (List Tree × Tree)) (is : List ImportRecord)
    (es : List ExportRecord) : visits.foldl Declarations.add ⟨is, Declarations.firsts es⟩ =
      ⟨is ++ imported visits, Declarations.firsts (es ++ exported visits)⟩ := by
  induction visits generalizing is es with
  | nil => simp [imported, exported]
  | cons v visits ih =>
    rw [List.foldl_cons, Declarations.add, Declarations.foldl_unless_mem, ih, imported, imported,
      exported, exported, List.flatMap_cons, List.flatMap_cons, List.append_assoc,
      List.append_assoc]

theorem run_eq {t : Tree} {fuel : Nat} (enough : t.size ≤ fuel) :
    Worklist.run fuel [([], t)] ⟨[], []⟩ = t.declared := by
  rw [← length_preorder []] at enough
  rw [(Worklist.visits_preorder t).run enough]
  exact foldl_add (preorder [] t) [] []

theorem declarations_eq (t : Tree) : t.declarations = t.declared := run_eq (Nat.le_refl _)

/-! ## Kinds of nodes -/

theorem category_eq_importing_iff {t : Tree} :
    t.category = .importing ↔ t.kind = "import_statement" := by
  unfold category Category.ofKind
  split <;> simp_all

theorem category_eq_exporting_iff {t : Tree} :
    t.category = .exporting ↔ t.kind = "export_statement" := by
  unfold category Category.ofKind
  split <;> simp_all

/-- Only import statements give imports. -/
theorem imports_eq (t : Tree) :
    t.imports = if t.kind = "import_statement" then t.importRecord?.toList else [] := by
  simp only [imports, category_eq_importing_iff]

/-- Export statements give exports of their own, and declarations give one to the statement around
them. -/
theorem exports_eq (around : List Tree) (t : Tree) : t.exports around =
    if t.kind = "export_statement" then t.ownExports
    else if t.category.exportKind?.isSome then (t.declaredExport? around).toList else [] := by
  have exporting := category_eq_exporting_iff (t := t)
  rw [exports]
  cases h : t.category <;> simp_all [Category.exportKind?]

/-! ## A tree and its children -/

/-- A node around all others makes no difference if it is not an export statement. -/
theorem enclosingExport?_append {root : Tree} (h : root.kind ≠ "export_statement")
    (around : List Tree) : enclosingExport? (around ++ [root]) = enclosingExport? around := by
  match around with
  | [] =>
    by_cases ambient : root.kind = "ambient_declaration" <;> simp [enclosingExport?, ambient, h]
  | [p] => by_cases ambient : p.kind = "ambient_declaration" <;> simp [enclosingExport?, ambient, h]
  | p :: q :: rest => rfl

theorem exports_append {root : Tree} (h : root.kind ≠ "export_statement") (around : List Tree)
    (t : Tree) : t.exports (around ++ [root]) = t.exports around := by
  simp only [exports, declaredExport?, enclosingExport?_append h]

theorem imported_preorder (around : List Tree) (t : Tree) : imported (preorder around t) =
    t.imports ++ t.children.flatMap fun c => imported (preorder (t :: around) c) := by
  rw [preorder_eq, imported, List.flatMap_cons, List.flatMap_assoc]
  rfl

theorem exported_preorder (around : List Tree) (t : Tree) : exported (preorder around t) =
    t.exports around ++ t.children.flatMap fun c => exported (preorder (t :: around) c) := by
  rw [preorder_eq, exported, List.flatMap_cons, List.flatMap_assoc]
  rfl

theorem imported_children (t : Tree) (h : t.category = .other) :
    imported (preorder [] t) = t.children.flatMap fun c => imported (preorder [] c) := by
  have own : t.imports = [] := by simp [imports, h]
  rw [imported_preorder, own, List.nil_append]
  refine List.flatMap_congr fun c _ => ?_
  rw [preorder_below, imported, List.flatMap_map]
  rfl

theorem exported_children (t : Tree) (h : t.category = .other) :
    exported (preorder [] t) = t.children.flatMap fun c => exported (preorder [] c) := by
  have own : t.exports [] = [] := by simp [exports, h]
  have kind : t.kind ≠ "export_statement" := fun same => by
    rw [category_eq_exporting_iff.2 same] at h
    cases h
  rw [exported_preorder, own, List.nil_append]
  refine List.flatMap_congr fun c _ => ?_
  rw [preorder_below, exported, List.flatMap_map]
  exact List.flatMap_congr fun v _ => exports_append kind v.1 v.2

/-- A worklist visits each node of a tree once, in document order, and then is empty. The imports
are those of the import statements. The exports are those of the export statements and of the
declarations in them; of equal ones the first is kept. What stands side by side below a node that
gives no record itself may be collected side by side. -/
theorem worklist_refines_preorder (t : Tree) :
    (∀ visits, Worklist.Visits [([], t)] visits ↔ visits = preorder [] t) ∧
    (∀ fuel, t.size ≤ fuel → Worklist.run fuel [([], t)] ⟨[], []⟩ = t.declarations) ∧
    (t.places.Pairwise (· < ·) ∧
      (∀ place, place ∈ t.places ↔ (seek [] t place).isSome = true) ∧
      t.places.map (seek [] t) = (preorder [] t).map some) ∧
    (t.declarations.imports = (preorder [] t).flatMap fun v =>
      if v.2.kind = "import_statement" then v.2.importRecord?.toList else []) ∧
    (∃ recorded, (recorded = (preorder [] t).flatMap fun v =>
        if v.2.kind = "export_statement" then v.2.ownExports
        else if v.2.category.exportKind?.isSome then (v.2.declaredExport? v.1).toList else []) ∧
      t.declarations.exports.Nodup ∧
      (∀ e, e ∈ t.declarations.exports ↔ e ∈ recorded) ∧
      t.declarations.exports.Pairwise fun e e' => recorded.idxOf e < recorded.idxOf e') ∧
    (t.category = .other →
      t.declarations.imports = t.children.flatMap (fun c => c.declarations.imports) ∧
      t.declarations.exports =
        Declarations.firsts (t.children.flatMap fun c => c.declarations.exports)) := by
  have visits := Worklist.visits_preorder t
  have imports : t.declarations.imports = imported (preorder [] t) := by
    rw [declarations_eq]
    rfl
  have exports : t.declarations.exports = Declarations.firsts (exported (preorder [] t)) := by
    rw [declarations_eq]
    rfl
  refine ⟨fun vs => ⟨fun h => h.unique visits, fun h => h ▸ visits⟩, fun fuel enough => ?_,
    ⟨places_ordered t, fun place => mem_places [], map_seek_places [] t⟩, ?_, ?_, fun h => ?_⟩
  · rw [run_eq enough, declarations_eq]
  · simp only [imports, imported, imports_eq]
  · refine ⟨_, rfl, ?_⟩
    simp only [← exports_eq]
    rw [exports]
    exact ⟨Declarations.nodup_firsts _, fun e => Declarations.mem_firsts,
      Declarations.firsts_ordered _⟩
  · rw [imports, exports, imported_children t h, exported_children t h,
      ← Declarations.firsts_flatMap_firsts]
    simp only [declarations_eq]
    exact ⟨rfl, rfl⟩

/-- A function that is exported with its signature. -/
def Sample.overloads : Tree :=
  Sample.node "program" none
    (["function_signature", "function_declaration"].map fun kind =>
      Sample.node "export_statement" none
        [Sample.token "export",
          Sample.node kind (some "declaration") [Sample.leaf "identifier" (some "name") "f"]])

theorem worklist_refines_preorder_sample :
    Sample.overloads.category = .other ∧
    Sample.overloads.declarations.exports =
      Declarations.firsts (Sample.overloads.children.flatMap fun c => c.declarations.exports) ∧
    (Sample.overloads.children.flatMap fun c => c.declarations.exports) =
      [⟨"f", .function, false⟩, ⟨"f", .function, false⟩] ∧
    Sample.overloads.declarations.exports = [⟨"f", .function, false⟩] :=
  have ⟨_, _, _, _, _, children⟩ := worklist_refines_preorder Sample.overloads
  ⟨rfl, (children rfl).2, by decide, by decide⟩

end Tree

end ModuleAtlas
