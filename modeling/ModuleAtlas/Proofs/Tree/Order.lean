import ModuleAtlas.Extract
import Mathlib.Data.List.Lex

/-!
# Document order

A place in a tree is given by the child numbers that lead to it. The nodes in document order are the
nodes at the places of the tree, in the order of the places: a node stands before what is below it,
and what is below a child stands before what is below the next one.

## Main definitions

* `Tree.nodes` — the nodes of a tree in document order.
* `Tree.seek` — the node at a place, with the nodes around it.
* `Tree.places` — the places of a tree.
-/
namespace ModuleAtlas

namespace Tree

/-- What holds of a tree if it holds of its children holds of all trees. -/
@[elab_as_elim]
theorem induct {motive : Tree → Prop} (node : ∀ t, (∀ c ∈ t.children, motive c) → motive t)
    (t : Tree) : motive t :=
  node t fun c _ => induct node c
termination_by sizeOf t
decreasing_by
  obtain ⟨_, _, _, _, children, _, _, _, _⟩ := t
  have := List.sizeOf_lt_of_mem ‹c ∈ _›
  simp only [mk.sizeOf_spec] at *
  omega

theorem preorderIn_eq (around ts : List Tree) :
    preorderIn around ts = ts.flatMap (preorder around) := by
  induction ts with
  | nil => rfl
  | cons t ts ih => rw [preorderIn, ih, List.flatMap_cons]

theorem preorder_eq (around : List Tree) (t : Tree) :
    preorder around t = (around, t) :: t.children.flatMap (preorder (t :: around)) := by
  rw [← preorderIn_eq]
  cases t
  rfl

theorem length_preorder (around : List Tree) (t : Tree) : (preorder around t).length = t.size := by
  induction t using induct generalizing around with
  | node t ih =>
    have children (ts : List Tree) (h : ∀ c ∈ ts, c ∈ t.children) :
        (ts.flatMap (preorder (t :: around))).length = sizeIn ts := by
      induction ts with
      | nil => rfl
      | cons c ts ihts =>
        have ⟨hc, hts⟩ := List.forall_mem_cons.1 h
        rw [List.flatMap_cons, List.length_append, ih c hc, ihts hts, sizeIn]
    rw [preorder_eq, size_eq, List.length_cons, children t.children fun _ h => h, Nat.add_comm]

theorem preorder_append (around outer : List Tree) (t : Tree) :
    preorder (around ++ outer) t = (preorder around t).map fun v => (v.1 ++ outer, v.2) := by
  induction t using induct generalizing around with
  | node t ih =>
    have children : t.children.flatMap (preorder (t :: around ++ outer)) =
        t.children.flatMap fun c => (preorder (t :: around) c).map fun v => (v.1 ++ outer, v.2) :=
      List.flatMap_congr fun c hc => ih c hc (t :: around)
    rw [preorder_eq, preorder_eq, List.map_cons, List.map_flatMap, ← children]
    rfl

theorem preorder_below (root t : Tree) :
    preorder [root] t = (preorder [] t).map fun v => (v.1 ++ [root], v.2) :=
  preorder_append [] [root] t

/-! ## Nodes without what is around them -/

/-- The nodes of a tree in document order. -/
def nodes (t : Tree) : List Tree := (preorder [] t).map Prod.snd

theorem map_snd_preorder (around : List Tree) (t : Tree) :
    (preorder around t).map Prod.snd = t.nodes := by
  have outer := preorder_append [] around t
  rw [List.nil_append] at outer
  rw [outer, List.map_map]
  rfl

theorem nodes_eq (t : Tree) : t.nodes = t :: t.children.flatMap nodes := by
  rw [nodes, preorder_eq, List.map_cons, List.map_flatMap]
  exact congrArg _ (List.flatMap_congr fun c _ => map_snd_preorder [t] c)

theorem mem_nodes_of_mem_preorder {around : List Tree} {t : Tree} {v : List Tree × Tree}
    (h : v ∈ preorder around t) : v.2 ∈ t.nodes :=
  map_snd_preorder around t ▸ List.mem_map_of_mem h

theorem self_mem_nodes (t : Tree) : t ∈ t.nodes := by
  rw [nodes_eq]
  exact List.mem_cons_self

theorem mem_nodes_of_child {t c n : Tree} (child : c ∈ t.children) (h : n ∈ c.nodes) :
    n ∈ t.nodes := by
  rw [nodes_eq]
  exact List.mem_cons_of_mem t (List.mem_flatMap.2 ⟨c, child, h⟩)

theorem child_mem_nodes {t c : Tree} (child : c ∈ t.children) : c ∈ t.nodes :=
  mem_nodes_of_child child c.self_mem_nodes

/-- What is below a node of a tree is below the tree. -/
theorem mem_nodes_trans {t n m : Tree} (hn : n ∈ t.nodes) (hm : m ∈ n.nodes) : m ∈ t.nodes := by
  induction t using induct with
  | node t ih =>
    rw [nodes_eq, List.mem_cons, List.mem_flatMap] at hn
    obtain rfl | ⟨c, child, hn⟩ := hn
    · exact hm
    · exact mem_nodes_of_child child (ih c child hn)

/-! ## Places -/

/-- The node at a place, with the nodes around it from the inside out. -/
def seek (around : List Tree) (t : Tree) : (place : List Nat) → Option (List Tree × Tree)
  | [] => some (around, t)
  | i :: place =>
    match t.children[i]? with
    | some c => seek (t :: around) c place
    | none => none

mutual

/-- The places of a tree. -/
def places : Tree → List (List Nat)
  | ⟨_, _, _, _, children, _, _, _, _⟩ => [] :: placesIn children 0

/-- The same for a row of siblings, the first of which has a number. -/
def placesIn : List Tree → Nat → List (List Nat)
  | [], _ => []
  | t :: ts, n => (places t).map (n :: ·) ++ placesIn ts (n + 1)

end

theorem placesIn_eq (ts : List Tree) (n : Nat) :
    placesIn ts n = (ts.zipIdx n).flatMap fun x => (places x.1).map (x.2 :: ·) := by
  induction ts generalizing n with
  | nil => rfl
  | cons t ts ih => rw [placesIn, ih, List.zipIdx_cons, List.flatMap_cons]

theorem places_eq (t : Tree) :
    t.places = [] :: t.children.zipIdx.flatMap fun x => (places x.1).map (x.2 :: ·) := by
  rw [← placesIn_eq]
  cases t
  rfl

/-- A place is in a tree when there is a node at it. -/
theorem mem_places {t : Tree} {place : List Nat} (around : List Tree) :
    place ∈ t.places ↔ (seek around t place).isSome = true := by
  induction t using induct generalizing around place with
  | node t ih =>
    rw [places_eq]
    cases place with
    | nil => simp [seek]
    | cons i place =>
      simp only [List.mem_cons, reduceCtorEq, List.mem_flatMap, List.mem_map, List.cons.injEq,
        false_or, seek, Prod.exists]
      constructor
      · rintro ⟨c, n, hc, q, hq, rfl, rfl⟩
        have child := List.mk_mem_zipIdx_iff_getElem?.1 hc
        simp only [child]
        exact (ih c (List.mem_of_getElem? child) _).1 hq
      · intro h
        cases child : t.children[i]? with
        | none => simp [child] at h
        | some c =>
          simp only [child] at h
          exact ⟨c, i, List.mk_mem_zipIdx_iff_getElem?.2 child, place,
            (ih c (List.mem_of_getElem? child) _).2 h, rfl, rfl⟩

/-- Places are in document order. -/
theorem places_ordered (t : Tree) : t.places.Pairwise (· < ·) := by
  induction t using induct with
  | node t ih =>
    rw [places_eq, List.pairwise_cons]
    refine ⟨fun q hq => ?_, ?_⟩
    · obtain ⟨x, -, hq⟩ := List.mem_flatMap.1 hq
      obtain ⟨q, -, rfl⟩ := List.mem_map.1 hq
      exact List.nil_lt_cons x.2 q
    · refine List.pairwise_flatMap.2 ⟨fun x hx => ?_, ?_⟩
      · -- Below one child, places are in the order of what comes behind its number.
        have child := List.mk_mem_zipIdx_iff_getElem?.1 hx
        exact List.pairwise_map.2 ((ih x.1 (List.mem_of_getElem? child)).imp
          fun before => List.cons_lt_cons_iff.2 (.inr ⟨rfl, before⟩))
      · have numbers : t.children.zipIdx.Pairwise fun x y => x.2 < y.2 := by
          rw [← List.pairwise_map, List.zipIdx_map_snd]
          exact List.pairwise_lt_range'
        refine numbers.imp fun {x y} before q hq r hr => ?_
        obtain ⟨q, -, rfl⟩ := List.mem_map.1 hq
        obtain ⟨r, -, rfl⟩ := List.mem_map.1 hr
        exact List.cons_lt_cons_iff.2 (.inl before)

/-- The nodes in document order are those at the places. -/
theorem map_seek_places (around : List Tree) (t : Tree) :
    t.places.map (seek around t) = (preorder around t).map some := by
  induction t using induct generalizing around with
  | node t ih =>
    have below : ∀ x ∈ t.children.zipIdx, ((places x.1).map (x.2 :: ·)).map (seek around t) =
        (preorder (t :: around) x.1).map some := by
      intro x hx
      have child := List.mk_mem_zipIdx_iff_getElem?.1 hx
      have step : seek around t ∘ (x.2 :: ·) = seek (t :: around) x.1 := by
        funext q
        rw [Function.comp_apply, seek, child]
      rw [List.map_map, step, ih x.1 (List.mem_of_getElem? child)]
    have children : t.children.zipIdx.flatMap (fun x => (preorder (t :: around) x.1).map some) =
        t.children.flatMap fun c => (preorder (t :: around) c).map some := by
      conv_rhs => rw [← List.zipIdx_map_fst 0 t.children, List.flatMap_map]
    rw [places_eq, preorder_eq, List.map_cons, List.map_cons, List.map_flatMap, List.map_flatMap,
      List.flatMap_congr below, children]
    rfl

/-! ## Sample trees -/

namespace Sample

def token (word : String) : Tree := ⟨word, false, none, word, [], false, false, false, ⟨0, 0⟩⟩

def leaf (kind : String) (field : Option String) (text : String) : Tree :=
  ⟨kind, true, field, text, [], false, false, false, ⟨0, 0⟩⟩

def node (kind : String) (field : Option String) (children : List Tree) : Tree :=
  ⟨kind, true, field, " ".intercalate (children.map text), children, false, false, false, ⟨0, 0⟩⟩

end Sample

end Tree

end ModuleAtlas
