import ModuleAtlas.Extract
import Mathlib.Data.List.Basic
import Mathlib.Data.List.Induction

/-!
# The first of equal elements

A list without repetitions is made from any list by leaving out each element that has come before.
What is kept are all elements, each once, in the order in which they come first.
-/
namespace ModuleAtlas

namespace Declarations

variable {α : Type} [DecidableEq α]

theorem firsts_concat (xs : List α) (x : α) :
    firsts (xs ++ [x]) = if x ∈ xs then firsts xs else firsts xs ++ [x] := by
  have kept (ys : List α) : x ∈ ys.foldl (fun kept y => if y ∈ kept then kept else y :: kept) [] ↔
      x ∈ ys := by
    induction ys using List.reverseRecOn with
    | nil => simp
    | append_singleton ys y ih =>
      rw [List.foldl_append, List.foldl_cons, List.foldl_nil, List.mem_append, List.mem_singleton]
      split <;> grind
  rw [firsts, List.foldl_append, List.foldl_cons, List.foldl_nil]
  by_cases h : x ∈ xs
  · rw [if_pos ((kept xs).2 h), if_pos h, firsts]
  · rw [if_neg fun mem => h ((kept xs).1 mem), if_neg h, List.reverse_cons, firsts]

theorem mem_firsts {xs : List α} {x : α} : x ∈ firsts xs ↔ x ∈ xs := by
  induction xs using List.reverseRecOn with
  | nil => simp [firsts]
  | append_singleton xs y ih =>
    rw [firsts_concat]
    split <;> grind

/-- Elements are kept in the order in which they come first. -/
theorem firsts_ordered (xs : List α) :
    (firsts xs).Pairwise fun x y => xs.idxOf x < xs.idxOf y := by
  induction xs using List.reverseRecOn with
  | nil => exact .nil
  | append_singleton xs y ih =>
    have earlier : (firsts xs).Pairwise fun x x' => (xs ++ [y]).idxOf x < (xs ++ [y]).idxOf x' := by
      refine ih.imp_of_mem fun hx hx' before => ?_
      rwa [List.idxOf_append_of_mem (mem_firsts.1 hx), List.idxOf_append_of_mem (mem_firsts.1 hx')]
    rw [firsts_concat]
    split
    · exact earlier
    · next new =>
      refine List.pairwise_append.2 ⟨earlier, List.pairwise_singleton _ _, fun x hx z hz => ?_⟩
      obtain rfl := List.mem_singleton.1 hz
      rw [List.idxOf_append_of_mem (mem_firsts.1 hx), List.idxOf_append_of_notMem new]
      exact Nat.lt_add_right _ (List.idxOf_lt_length_of_mem (mem_firsts.1 hx))

theorem nodup_firsts (xs : List α) : (firsts xs).Nodup := by
  refine (firsts_ordered xs).imp fun before same => ?_
  rw [same] at before
  exact Nat.lt_irrefl _ before

/-! ## Lists made of lists -/

theorem firsts_firsts (xs : List α) : firsts (firsts xs) = firsts xs := by
  induction xs using List.reverseRecOn with
  | nil => rfl
  | append_singleton xs x ih =>
    by_cases h : x ∈ xs
    · rw [firsts_concat, if_pos h, ih]
    · rw [firsts_concat, if_neg h, firsts_concat, if_neg fun mem => h (mem_firsts.1 mem), ih]

/-- The repetitions in what a list begins with may be left out first. -/
theorem firsts_append_left (xs ys : List α) : firsts (firsts xs ++ ys) = firsts (xs ++ ys) := by
  induction ys using List.reverseRecOn with
  | nil => rw [List.append_nil, List.append_nil, firsts_firsts]
  | append_singleton ys y ih =>
    rw [← List.append_assoc, ← List.append_assoc, firsts_concat, firsts_concat, ih]
    simp only [List.mem_append, mem_firsts]

theorem firsts_append_right (xs ys : List α) : firsts (xs ++ firsts ys) = firsts (xs ++ ys) := by
  induction ys using List.reverseRecOn with
  | nil => rfl
  | append_singleton ys y ih =>
    by_cases h : y ∈ ys
    · have old : y ∈ xs ++ ys := List.mem_append_right xs h
      rw [firsts_concat, if_pos h, ih, ← List.append_assoc, firsts_concat, if_pos old]
    · rw [firsts_concat, if_neg h, ← List.append_assoc, ← List.append_assoc, firsts_concat,
        firsts_concat, ih]
      simp only [List.mem_append, mem_firsts]

theorem firsts_flatMap_firsts {β : Type} (xs : List β) (f : β → List α) :
    firsts (xs.flatMap fun x => firsts (f x)) = firsts (xs.flatMap f) := by
  induction xs with
  | nil => rfl
  | cons x xs ih =>
    rw [List.flatMap_cons, List.flatMap_cons, firsts_append_left, ← firsts_append_right, ih,
      firsts_append_right]

/-- Elements that are put behind a list unless they are in it. -/
theorem foldl_unless_mem (past xs : List α) :
    xs.foldl (fun kept x => if x ∈ kept then kept else kept ++ [x]) (firsts past) =
      firsts (past ++ xs) := by
  induction xs generalizing past with
  | nil => rw [List.append_nil, List.foldl_nil]
  | cons x xs ih =>
    have step : (if x ∈ firsts past then firsts past else firsts past ++ [x]) =
        firsts (past ++ [x]) := by
      rw [firsts_concat]
      simp only [mem_firsts]
    rw [List.foldl_cons, step, ih, List.append_assoc]
    rfl

end Declarations

end ModuleAtlas
