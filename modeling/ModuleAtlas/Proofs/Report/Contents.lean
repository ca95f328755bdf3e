import ModuleAtlas.Proofs.Report.Ranking
import ModuleAtlas.Proofs.Report.Tally

/-!
# What reports say

A summary and a question show the first files of one ranking, each with the numbers of its imports
and exports, and a question counts all imports and exports by their kinds. The files enter a report
through their ranking and these counts alone.
-/
namespace ModuleAtlas.Report

section Order

variable {r : AnalysisResult} {files : List FileRecord}

theorem mostConnected_eq_of_perm (distinct : (r.files.map FileRecord.path).Nodup)
    (perm : files.Perm r.files) (bound : Int) :
    mostConnected { r with files } bound = mostConnected r bound :=
  congrArg (upTo bound) (ranking_eq_of_perm perm distinct)

theorem summary_eq_of_perm (distinct : (r.files.map FileRecord.path).Nodup)
    (perm : files.Perm r.files) (top : Int) : summary { r with files } top = summary r top := by
  have empty : files.isEmpty = r.files.isEmpty := by
    rw [Bool.eq_iff_iff, List.isEmpty_iff, List.isEmpty_iff]
    exact ⟨fun h => (h ▸ perm).nil_eq.symm, fun h => (h ▸ perm).eq_nil⟩
  unfold summary summaryLines
  rw [mostConnected_eq_of_perm distinct perm]
  simp only [empty]

theorem question_eq_of_perm (distinct : (r.files.map FileRecord.path).Nodup)
    (perm : files.Perm r.files) (asked : String) :
    question { r with files } asked = question r asked := by
  unfold question questionLines
  simp only [mostConnected_eq_of_perm distinct perm, histogram_eq_of_perm (perm.flatMap_right _)]

/-- The texts of a result whose files have different paths do not depend on the order in which the
files stand. -/
theorem texts_ignore_file_order (distinct : (r.files.map FileRecord.path).Nodup)
    (perm : files.Perm r.files) (top : Int) (asked : String) :
    summary { r with files } top = summary r top ∧
      question { r with files } asked = question r asked :=
  ⟨summary_eq_of_perm distinct perm top, question_eq_of_perm distinct perm asked⟩

/-- Two files with as many connections, and one that imports a module for its effects. -/
def sample : AnalysisResult :=
  { (default : AnalysisResult) with
    files := [⟨"b.ts", [], []⟩, ⟨"a.ts", [], []⟩,
      ⟨"main.ts", [{ (default : ImportRecord) with kind := .sideEffect }], []⟩] }

theorem texts_ignore_file_order_sample :
    let files := sample.files.reverse
    summary { sample with files } (-1) = summary sample (-1) ∧
      question { sample with files } "Why?" = question sample "Why?" :=
  texts_ignore_file_order (by decide) sample.files.reverse_perm (-1) "Why?"

end Order

/-! ## The parts of a report -/

end ModuleAtlas.Report
