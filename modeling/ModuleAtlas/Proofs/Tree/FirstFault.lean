import ModuleAtlas.Proofs.Tree.Order

/-!
# The first error of a tree

The search for an error passes over what is below a node without the error mark, and it stops at the
first error that it meets. So it finds the first of the errors that are exposed: all nodes around
them have the mark and are no errors themselves. Where the marks are as they should be, the first
error in document order is exposed, and the search finds it.

## Main definitions

* `Tree.IsFirst` — a node of some sort at the least place with such a node.
* `Tree.Exposed` — an error that the search can come to.
* `Tree.RightlyMarked` — all nodes with an error in them have the mark, and no others.
-/
namespace ModuleAtlas

namespace Tree

/-- A node of some sort is the first when it is at the least place with a node of this sort. Places
are compared child number by child number, and a node is before what is below it. -/
def IsFirst (sort : List Tree × Tree → Prop) (around : List Tree) (t : Tree) (place : List Nat)
    (n : Tree) : Prop :=
  (∃ above, seek around t place = some (above, n) ∧ sort (above, n)) ∧
    ∀ p v, p < place → seek around t p = some v → ¬ sort v

/-- Below a node with the error mark that is no error the search goes on. -/
def Entered (t : Tree) : Prop := t.hasError = true ∧ t.isFault = false

/-- An error that the search can come to. -/
def Exposed (v : List Tree × Tree) : Prop := v.2.isFault = true ∧ ∀ a ∈ v.1, a.Entered

instance : DecidablePred Entered := fun _ => inferInstanceAs (Decidable (_ ∧ _))

instance : DecidablePred Exposed := fun v => inferInstanceAs (Decidable (_ ∧ ∀ a ∈ v.1, a.Entered))

/-- The error mark is on the nodes that are errors or have some below them, and on no others. -/
def RightlyMarked (t : Tree) : Prop :=
  ∀ n ∈ t.nodes, n.hasError = true ↔ ∃ m ∈ n.nodes, m.isFault = true

instance (t : Tree) : Decidable t.RightlyMarked := inferInstanceAs (Decidable (∀ n ∈ t.nodes, _))

/-! ## The first node of a sort -/

theorem findSome?_flatMap {α β γ : Type} (xs : List α) (g : α → List β) (f : β → Option γ) :
    (xs.flatMap g).findSome? f = xs.findSome? fun x => (g x).findSome? f := by
  induction xs with
  | nil => rfl
  | cons x xs ih =>
    rw [List.flatMap_cons, List.findSome?_append, ih, List.findSome?_cons]
    cases (g x).findSome? f <;> rfl

theorem findSome?_congr {α β : Type} {xs : List α} {f g : α → Option β}
    (same : ∀ x ∈ xs, f x = g x) : xs.findSome? f = xs.findSome? g := by
  induction xs with
  | nil => rfl
  | cons x xs ih =>
    have ⟨first, others⟩ := List.forall_mem_cons.1 same
    rw [List.findSome?_cons, List.findSome?_cons, first, ih others]

section First

variable (sort : List Tree × Tree → Prop) [DecidablePred sort] (around : List Tree) (t : Tree)

/-- The node at a place, if it is of a sort. -/
def seekWhere (place : List Nat) : Option (List Nat × Tree) :=
  ((seek around t place).filter fun v => decide (sort v)).map fun v => (place, v.2)

/-- The least place with a node of a sort, and this node. -/
def firstWhere : Option (List Nat × Tree) := t.places.findSome? (seekWhere sort around t)

variable {sort around t}

theorem seekWhere_eq_some {place p : List Nat} {n : Tree} :
    seekWhere sort around t place = some (p, n) ↔
      place = p ∧ ∃ above, seek around t place = some (above, n) ∧ sort (above, n) := by
  simp only [seekWhere, Option.map_eq_some_iff, Option.filter_eq_some_iff, decide_eq_true_eq,
    Prod.mk.injEq, Prod.exists]
  constructor
  · rintro ⟨above, m, ⟨found, right⟩, rfl, rfl⟩
    exact ⟨rfl, above, found, right⟩
  · rintro ⟨rfl, above, found, right⟩
    exact ⟨above, n, ⟨found, right⟩, rfl, rfl⟩

theorem seekWhere_eq_none {place : List Nat} :
    seekWhere sort around t place = none ↔ ∀ v, seek around t place = some v → ¬ sort v := by
  simp [seekWhere]

/-- The first node of a sort is the root, or it is the first below the first child with one. -/
theorem firstWhere_eq : firstWhere sort around t = if sort (around, t) then some ([], t)
    else t.children.zipIdx.findSome? fun x =>
      (firstWhere sort (t :: around) x.1).map fun y => (x.2 :: y.1, y.2) := by
  have below : ∀ x ∈ t.children.zipIdx,
      ((places x.1).map (x.2 :: ·)).findSome? (seekWhere sort around t) =
        (firstWhere sort (t :: around) x.1).map fun y => (x.2 :: y.1, y.2) := by
    intro x hx
    have child := List.mk_mem_zipIdx_iff_getElem?.1 hx
    rw [List.findSome?_map, firstWhere, List.map_findSome?]
    refine findSome?_congr fun p _ => ?_
    simp only [Function.comp_apply, seekWhere, seek, child, Option.map_map]
    rfl
  rw [firstWhere, places_eq, List.findSome?_cons, findSome?_flatMap, findSome?_congr below]
  by_cases here : sort (around, t) <;> simp [seekWhere, seek, here, Option.filter]

theorem firstWhere_eq_some {place : List Nat} {n : Tree} :
    firstWhere sort around t = some (place, n) ↔ IsFirst sort around t place n := by
  rw [firstWhere, List.findSome?_eq_some_iff]
  constructor
  · rintro ⟨before, p, behind, all, found, passed⟩
    obtain ⟨rfl, here⟩ := seekWhere_eq_some.1 found
    refine ⟨here, fun q v earlier there => seekWhere_eq_none.1 (passed q ?_) v there⟩
    -- In the ordered list of places, an earlier one stands in front.
    have ordered := places_ordered t
    rw [all, List.pairwise_append, List.pairwise_cons] at ordered
    have listed : q ∈ t.places := (mem_places around).2 (by rw [there]; rfl)
    rw [all, List.mem_append, List.mem_cons] at listed
    rcases listed with front | rfl | later
    · exact front
    · exact absurd earlier (lt_irrefl q)
    · exact absurd (ordered.2.1.1 q later) (lt_asymm earlier)
  · rintro ⟨⟨above, there, right⟩, least⟩
    have listed : place ∈ t.places := (mem_places around).2 (by rw [there]; rfl)
    obtain ⟨before, behind, all⟩ := List.append_of_mem listed
    have ordered := places_ordered t
    rw [all, List.pairwise_append] at ordered
    refine ⟨before, place, behind, all, seekWhere_eq_some.2 ⟨rfl, above, there, right⟩,
      fun q hq => ?_⟩
    exact seekWhere_eq_none.2 fun v => least q v (ordered.2.2 q hq place List.mem_cons_self)

theorem find?_map_some {α : Type} (xs : List α) (p : α → Bool) :
    (xs.map some).findSome? (Option.filter p) = xs.find? p := by
  rw [List.findSome?_map, ← List.findSome?_guard]
  rfl

/-- The first node of a sort is the first of that sort in document order. -/
theorem map_snd_firstWhere : (firstWhere sort around t).map Prod.snd =
    ((preorder around t).find? fun v => decide (sort v)).map Prod.snd := by
  rw [firstWhere, List.map_findSome?, ← find?_map_some, ← map_seek_places, List.findSome?_map,
    List.map_findSome?]
  refine findSome?_congr fun p _ => ?_
  simp only [Function.comp_apply, seekWhere, Option.map_map]
  rfl

theorem firstWhere_eq_none :
    firstWhere sort around t = none ↔ ∀ v ∈ preorder around t, ¬ sort v := by
  rw [← Option.map_eq_none_iff, map_snd_firstWhere, Option.map_eq_none_iff, List.find?_eq_none]
  simp only [decide_eq_true_eq]

end First

/-! ## What the marks say -/

/-- What is around a tree is around all its nodes. -/
theorem around_subset {around : List Tree} {t : Tree} {v : List Tree × Tree}
    (h : v ∈ preorder around t) : around ⊆ v.1 := by
  have outer := preorder_append [] around t
  rw [List.nil_append] at outer
  rw [outer] at h
  obtain ⟨v, -, rfl⟩ := List.mem_map.1 h
  exact List.subset_append_right v.1 around

/-- Below a node at which the search turns back, no error is exposed. -/
theorem not_exposed_below {around : List Tree} {t c : Tree} (closed : ¬ t.Entered)
    (v : List Tree × Tree) (h : v ∈ preorder (t :: around) c) : ¬ Exposed v :=
  fun exposed => closed (exposed.2 t (around_subset h List.mem_cons_self))

theorem RightlyMarked.child {t c : Tree} (marked : t.RightlyMarked) (h : c ∈ t.children) :
    c.RightlyMarked := fun n hn => marked n (mem_nodes_of_child h hn)

/-! ## The search -/

/-- A tree is searched before what comes behind it. -/
theorem search_cons {around : List Tree} (entered : ∀ a ∈ around, a.Entered) (place : List Nat)
    (t : Tree) (rest : List (List Nat × Tree)) : search ((place, t) :: rest) =
      ((firstWhere Exposed around t).map fun y => (place.reverse ++ y.1, y.2)).or
        (search rest) := by
  induction t using induct generalizing around place rest with
  | node t ih =>
    rw [search, firstWhere_eq]
    by_cases fault : t.isFault = true
    · have exposed : Exposed (around, t) := ⟨fault, entered⟩
      simp [fault, exposed]
    rw [if_neg fault, if_neg fun exposed : Exposed (around, t) => fault exposed.1]
    by_cases mark : t.hasError = true
    · have inside : ∀ a ∈ t :: around, a.Entered :=
        List.forall_mem_cons.2 ⟨⟨mark, Bool.eq_false_iff.2 fault⟩, entered⟩
      -- The children are searched one after the other, and `rest` is searched behind the last.
      have row : ∀ xs : List (Tree × Nat), (∀ x ∈ xs, x.1 ∈ t.children) →
          search (xs.map (fun x => (x.2 :: place, x.1)) ++ rest) =
            ((xs.findSome? fun x =>
              (firstWhere Exposed (t :: around) x.1).map fun y => (x.2 :: y.1, y.2)).map
                fun y => (place.reverse ++ y.1, y.2)).or (search rest) := by
        intro xs children
        induction xs with
        | nil => rfl
        | cons x xs later =>
          obtain ⟨child, others⟩ := List.forall_mem_cons.1 children
          rw [List.map_cons, List.cons_append, ih x.1 child inside, later others,
            List.findSome?_cons]
          cases firstWhere Exposed (t :: around) x.1 with
          | none => rfl
          | some y => simp
      rw [if_pos mark, placedChildren, row]
      exact fun x hx => List.mem_of_getElem? (List.mk_mem_zipIdx_iff_getElem?.1 hx)
    · have none : ∀ x ∈ t.children.zipIdx,
          (firstWhere Exposed (t :: around) x.1).map (fun y => (x.2 :: y.1, y.2)) = none := by
        intro x _
        rw [Option.map_eq_none_iff, firstWhere_eq_none]
        exact not_exposed_below fun h => mark h.1
      rw [if_neg mark, List.findSome?_eq_none_iff.2 none]
      rfl

/-- The search finds the first exposed error. -/
theorem firstFault?_eq (t : Tree) : t.firstFault? = firstWhere Exposed [] t := by
  have nothing : ∀ a ∈ ([] : List Tree), a.Entered := List.forall_mem_nil _
  rw [firstFault?, search_cons nothing, search, Option.or_none]
  exact congrFun Option.map_id (firstWhere Exposed [] t)

/-- If the marks are as they should be, the first error is exposed. -/
theorem RightlyMarked.firstWhere_exposed {around : List Tree} {t : Tree} (marked : t.RightlyMarked)
    (entered : ∀ a ∈ around, a.Entered) :
    firstWhere Exposed around t = firstWhere (fun v => v.2.isFault = true) around t := by
  induction t using induct generalizing around with
  | node t ih =>
    rw [firstWhere_eq, firstWhere_eq]
    by_cases fault : t.isFault = true
    · rw [if_pos ⟨fault, entered⟩, if_pos fault]
    rw [if_neg fun exposed : Exposed (around, t) => fault exposed.1, if_neg fault]
    refine findSome?_congr fun x hx => ?_
    have child := List.mem_of_getElem? (List.mk_mem_zipIdx_iff_getElem?.1 hx)
    by_cases mark : t.hasError = true
    · rw [ih x.1 child (marked.child child)
        (List.forall_mem_cons.2 ⟨⟨mark, Bool.eq_false_iff.2 fault⟩, entered⟩)]
    · -- Without the mark there is no error below.
      have clean : ∀ v ∈ preorder (t :: around) x.1, ¬ v.2.isFault = true := by
        intro v hv bad
        have below : v.2 ∈ t.nodes := mem_nodes_of_child child (mem_nodes_of_mem_preorder hv)
        exact mark ((marked t t.self_mem_nodes).2 ⟨v.2, below, bad⟩)
      rw [firstWhere_eq_none.2 clean, firstWhere_eq_none.2 fun v hv exposed => clean v hv exposed.1]

theorem RightlyMarked.firstFault?_eq {t : Tree} (marked : t.RightlyMarked) :
    t.firstFault? = firstWhere (fun v => v.2.isFault = true) [] t := by
  rw [Tree.firstFault?_eq, marked.firstWhere_exposed (List.forall_mem_nil _)]

theorem RightlyMarked.firstFault?_eq_none {t : Tree} (marked : t.RightlyMarked) :
    t.firstFault? = none ↔ ∀ n ∈ t.nodes, n.isFault = false := by
  rw [marked.firstFault?_eq, firstWhere_eq_none, nodes, List.forall_mem_map]
  simp only [Bool.not_eq_true]

/-- If the marks are as they should be, a tree with the mark has an error. -/
theorem RightlyMarked.exists_firstFault {t : Tree} (marked : t.RightlyMarked)
    (mark : t.hasError = true) : ∃ place bad, t.firstFault? = some (place, bad) := by
  obtain ⟨bad, below, fault⟩ := (marked t t.self_mem_nodes).1 mark
  cases h : t.firstFault? with
  | some y => exact ⟨y.1, y.2, rfl⟩
  | none =>
    rw [marked.firstFault?_eq_none.1 h bad below] at fault
    contradiction

/-- The first error that is reported. Whatever the marks say, the search finds the exposed error at
the least place, and it finds nothing when no error is exposed. If the marks are as they should be,
this is the first of all errors in document order, there is none only if no node is an error, and a
refused file always has one to report. -/
theorem first_fault_reported (t : Tree) :
    (∀ place bad, t.firstFault? = some (place, bad) ↔ IsFirst Exposed [] t place bad) ∧
    (t.firstFault? = none ↔ ∀ v ∈ preorder [] t, ¬ Exposed v) ∧
    (t.RightlyMarked →
      (∀ place bad, t.firstFault? = some (place, bad) ↔
        IsFirst (fun v => v.2.isFault = true) [] t place bad) ∧
      (t.firstFault? = none ↔ ∀ n ∈ t.nodes, n.isFault = false) ∧
      t.firstFault?.map Prod.snd = t.nodes.find? isFault ∧
      ∀ path,
        (t.hasError = true → ∃ place bad, t.firstFault? = some (place, bad) ∧
          t.check path = .error ⟨path, bad.place.row + 1, bad.place.column + 1⟩) ∧
        (t.hasError = false → t.check path = .ok t)) := by
  refine ⟨fun place bad => ?_, ?_,
    fun marked => ⟨fun place bad => ?_, ?_, ?_, fun path => ⟨?_, ?_⟩⟩⟩
  · rw [firstFault?_eq, firstWhere_eq_some]
  · rw [firstFault?_eq, firstWhere_eq_none]
  · rw [marked.firstFault?_eq, firstWhere_eq_some]
  · exact marked.firstFault?_eq_none
  · rw [marked.firstFault?_eq, map_snd_firstWhere, nodes, List.find?_map]
    simp only [Bool.decide_eq_true]
    rfl
  · intro mark
    obtain ⟨place, bad, found⟩ := marked.exists_firstFault mark
    refine ⟨place, bad, found, ?_⟩
    rw [check, if_pos mark, found]
    rfl
  · intro mark
    rw [check, mark]
    rfl

namespace Sample

/-- A stray word in the second line. -/
def stray : Tree :=
  { leaf "ERROR" none "?" with isError := true, hasError := true, place := ⟨1, 4⟩ }

/-- A program with a stray word and, behind it, a missing token in its second statement. -/
def spoiled : Tree :=
  let lacking := { token ";" with text := "", isMissing := true, hasError := true, place := ⟨1, 5⟩ }
  let second := { node "expression_statement" none [leaf "identifier" none "f", stray, lacking] with
    hasError := true }
  { node "program" none [node "empty_statement" none [token ";"], second] with hasError := true }

end Sample

theorem first_fault_reported_sample : Sample.spoiled.RightlyMarked ∧
    Sample.spoiled.firstFault?.map Prod.snd = some Sample.stray ∧
    Sample.spoiled.check "a.ts" = .error ⟨"a.ts", 2, 5⟩ := by
  have marked : Sample.spoiled.RightlyMarked := by decide
  obtain ⟨-, -, first, reported⟩ := (first_fault_reported Sample.spoiled).2.2 marked
  have found : Sample.spoiled.firstFault?.map Prod.snd = some Sample.stray := first.trans rfl
  obtain ⟨place, bad, here, refused⟩ := (reported "a.ts").1 rfl
  refine ⟨marked, found, ?_⟩
  rw [here, Option.map_some, Option.some_inj] at found
  rw [refused, show bad = Sample.stray from found]
  rfl

end Tree

end ModuleAtlas
