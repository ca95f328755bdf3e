import ModuleAtlas.Report
import ModuleAtlas.Proofs.Schema.Reading
import Mathlib.Algebra.GroupWithZero.Nat
import Mathlib.Data.List.Induction
import Mathlib.Data.List.Sort
import Mathlib.Data.String.Basic

/-!
# Counted names

Names are counted one after the other. Whatever their order is, each name that occurs has one count,
the number of times that it occurs, so a histogram depends on how often names occur and on nothing
else. Kinds are counted by their spellings, which differ.

## Main definitions

* `Tallies` — counts that are those of some names.
* `IsHistogram` — entries in ascending order, one for each kind that occurs among some records.
-/
namespace ModuleAtlas.Report

open Schema (LawfulSpelled)

/-! ## Counting -/

/-- Each name that occurs stands in the counts once, with the number of times that it occurs. -/
structure Tallies (names : List String) (counts : List (String × Nat)) : Prop where
  distinct : (counts.map Prod.fst).Nodup
  exact (s : String) (n : Nat) : (s, n) ∈ counts ↔ 0 < n ∧ n = names.count s

theorem tallies_nil : Tallies [] [] := ⟨.nil, by grind⟩

theorem mem_fst_countOne {counts : List (String × Nat)} {name s : String} :
    s ∈ (countOne counts name).map Prod.fst ↔ s = name ∨ s ∈ counts.map Prod.fst := by
  fun_induction countOne counts name <;> grind

theorem nodup_countOne {counts : List (String × Nat)} {name : String}
    (h : (counts.map Prod.fst).Nodup) : ((countOne counts name).map Prod.fst).Nodup := by
  fun_induction countOne counts name with
  | case1 => simp
  | case2 => exact h
  | case3 other n rest name differ ih =>
    have ⟨absent, nodup⟩ := List.nodup_cons.1 h
    refine List.nodup_cons.2 ⟨?_, ih nodup⟩
    rw [mem_fst_countOne]
    grind

/-- The counts of other names stay, and that of the name is one more than it was. -/
theorem mem_countOne {counts : List (String × Nat)} {name s : String} {n : Nat}
    (h : (counts.map Prod.fst).Nodup) : (s, n) ∈ countOne counts name ↔
      s ≠ name ∧ (s, n) ∈ counts ∨
      s = name ∧ ∃ m, n = m + 1 ∧ (m = 0 ∧ name ∉ counts.map Prod.fst ∨ (name, m) ∈ counts) := by
  fun_induction countOne counts name with
  | case1 => grind
  | case2 n' rest name =>
    have ⟨absent, _⟩ := List.nodup_cons.1 h
    have (m : Nat) : (name, m) ∉ rest := fun mem => absent (List.mem_map.2 ⟨_, mem, rfl⟩)
    grind
  | case3 other n' rest name differ ih =>
    have ⟨_, nodup⟩ := List.nodup_cons.1 h
    have := ih nodup
    grind

/-- One more name is counted. -/
theorem Tallies.countOne {names : List String} {counts : List (String × Nat)}
    (h : Tallies names counts) (name : String) :
    Tallies (names ++ [name]) (countOne counts name) := by
  refine ⟨nodup_countOne h.distinct, fun s n => ?_⟩
  have absent : name ∉ counts.map Prod.fst ↔ names.count name = 0 := by
    constructor
    · intro missing
      by_contra some
      exact missing (List.mem_map.2 ⟨_, (h.exact _ _).2 ⟨Nat.pos_of_ne_zero some, rfl⟩, rfl⟩)
    · intro none mem
      obtain ⟨⟨s, m⟩, counted, rfl⟩ := List.mem_map.1 mem
      have := (h.exact s m).1 counted
      dsimp only at none
      omega
  rw [mem_countOne h.distinct, List.count_append, List.count_singleton]
  simp only [h.exact, absent]
  by_cases same : s = name
  · subst same
    constructor
    · grind
    · rintro ⟨-, rfl⟩
      refine .inr ⟨rfl, names.count s, by simp, ?_⟩
      omega
  · grind

theorem tallies_tally (names : List String) : Tallies names (tally names) := by
  induction names using List.reverseRecOn with
  | nil => exact tallies_nil
  | append_singleton names name ih =>
    unfold tally
    rw [List.foldl_append]
    exact ih.countOne name

theorem perm_histogram (names : List String) : (histogram names).Perm (tally names) :=
  List.mergeSort_perm _ _

/-- No two entries have one name, so those of a histogram ascend strictly. -/
theorem histogram_ascending (names : List String) :
    (histogram names).Pairwise fun a b => a.1 < b.1 := by
  have sorted : (histogram names).Pairwise fun a b => countInOrder a b = true := by
    apply List.pairwise_mergeSort
    · unfold countInOrder
      grind
    · unfold countInOrder
      grind
  have distinct : (histogram names).Pairwise fun a b => a.1 ≠ b.1 :=
    List.pairwise_map.1 (((perm_histogram names).map Prod.fst).nodup_iff.2
      (tallies_tally names).distinct)
  refine (sorted.and distinct).imp fun {a b} h => ?_
  obtain ⟨inOrder, ne⟩ := h
  unfold countInOrder at inOrder
  grind

theorem mem_histogram {names : List String} {s : String} {n : Nat} :
    (s, n) ∈ histogram names ↔ 0 < n ∧ n = names.count s :=
  (perm_histogram names).mem_iff.trans ((tallies_tally names).exact s n)

/-- The order in which names are counted does not matter. -/
theorem histogram_eq_of_perm {names names' : List String} (h : names.Perm names') :
    histogram names = histogram names' := by
  have nodup (names : List String) : (histogram names).Nodup := by
    refine (histogram_ascending names).imp fun {a b} before same => ?_
    exact lt_irrefl _ (same ▸ before)
  have perm : (histogram names).Perm (histogram names') := by
    refine (List.perm_ext_iff_of_nodup (nodup names) (nodup names')).2 fun ⟨s, n⟩ => ?_
    rw [mem_histogram, mem_histogram, h.count_eq]
  apply perm.eq_of_pairwise _ (histogram_ascending names) (histogram_ascending names')
  intro a b _ _ before after
  exact absurd after (lt_asymm before)

/-! ## Counts of kinds -/

variable {ρ κ : Type} [Spelled κ] [LawfulSpelled κ] [DecidableEq κ]

end ModuleAtlas.Report
