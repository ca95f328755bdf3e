import ModuleAtlas.Proofs.Analysis.Endings
import ModuleAtlas.Proofs.Discovery.Prefix

/-!
# Stopping an analysis

A signal that stays on once it is on stops the walk, or the workers, or comes too late. A walk that
is stopped leaves nothing to the workers, since the signal is asked again behind it. What is kept in
any case are some of the files that would be kept without the signal, each with the outcome of its
work.
-/
namespace ModuleAtlas

/-- A signal that stays on once it is on. -/
def StopSignal.IsLasting (stop : StopSignal) : Prop :=
  ∀ k l, k ≤ l → stop k = true → stop l = true

theorem StopSignal.after_isLasting (m : Nat) : (StopSignal.after m).IsLasting := by
  intro k l hkl hk
  simp only [StopSignal.after, decide_eq_true_eq] at *
  omega

namespace Discovery

/-! ## The walk -/

variable {d : Disk} {root : Path} {c : Config} {e : Entry} (hd : d.IsProper)
  (hroot : Listable d root e)
include hd hroot

/-- A walk either finds all that it would find without the signal, or the signal was on when it was
asked for one of the directories that would have been listed. -/
theorem discover_cases (stop : StopSignal) :
    stop.Silent 0 (listedCount (walk d root c e)) ∧
        discover d root c stop = discover d root c .never ∨
      ∃ k found, k < listedCount (walk d root c e) ∧ stop k = true ∧
        discover d root c stop = .ok found ∧ found.checks = k + 1 ∧
        List.IsPrefix found.warnings
          ((unread d root c e).map fun x => skipped root x.1 x.2) ∧
        ∀ f ∈ found.files, ∃ q, Eligible d root c e q ∧ f = sourceFile root q := by
  have harmless := walk_harmless (c := c) hd hroot
  have found (stop : StopSignal) := discover_eq (c := c) hd hroot stop
  rcases run_cases stop .start harmless with
    ⟨silent, done⟩ | ⟨before, y, rest, split, listed, silent, stopped, done⟩
  · refine .inl ⟨silent, ?_⟩
    rw [found, found, done, run_complete harmless (StopSignal.never_silent _ _)]
  · have asked : Progress.start.checks + listedCount before = listedCount before :=
      Nat.zero_add _
    rw [asked] at stopped
    refine .inr ⟨listedCount before, _, ?_, stopped, found stop, ?_, ?_, ?_⟩
    · rw [split]
      simp [listedCount, listed]
    · rw [done]
      simp [Progress.outcome, Progress.cut, Progress.after, Progress.start]
    · rw [done, map_skipped_unread, split, List.filterMap_append]
      exact List.prefix_append _ _
    · intro f hf
      rw [done, Progress.outcome, List.mem_mergeSort] at hf
      obtain ⟨q, hq, rfl⟩ := List.mem_map.1 hf
      obtain ⟨x, hx, hq⟩ := List.mem_flatMap.1 hq
      have walked : x ∈ walk d root c e := by rw [split]; simp [hx]
      have place : q ∈ places d root c e :=
        List.mem_mergeSort.2 (List.mem_flatMap.2 ⟨x, walked, hq⟩)
      exact ⟨q, (mem_places hd hroot).1 place, rfl⟩

/-- The signal is asked once for each directory that is listed. -/
theorem listedCount_walk {directories : List (List Name)} (nodup : directories.Nodup)
    (mem : ∀ q, q ∈ directories ↔ Listed c e q) :
    listedCount (walk d root c e) = directories.length := by
  have same : (Discovery.directories d root c e).Perm directories :=
    (List.perm_ext_iff_of_nodup (nodup_directories hd hroot c) nodup).2 fun q =>
      (mem_directories hd hroot).trans (mem q).symm
  rw [← same.length_eq, ← length_listedPlaces, Discovery.directories]

end Discovery

/-! ## The workers -/

namespace Analysis

variable {work : SourceFile → FileOutcome} {workers : Nat} {stop : StopSignal} {root : Path}
  {found : Discovery.Outcome} {a : Analysis}

theorem of_ending_cancelled (h : Pool.Ending workers stop work root found a)
    (stopped : stop found.checks = true) : a.result = resultOf work [] found.warnings true := by
  cases h with
  | cancelled _ => simp [cancelled, resultOf, edgesOf]
  | complete goesOn _ _ => cases goesOn.symm.trans stopped

/-- One worker keeps the first files, as many as the signal lets pass behind the walk. -/
theorem of_ending_one {m : Nat} (h : Pool.Ending 1 (.after m) work root found a) :
    a.result = if m ≤ found.checks then resultOf work [] found.warnings true
      else resultOf work (found.files.take (m - found.checks - 1)) found.warnings
        (decide (m < found.checks + 1 + found.files.length)) := by
  cases asked : (StopSignal.after m) found.checks with
  | true =>
    have reached : m ≤ found.checks := by simpa [StopSignal.after] using asked
    rw [of_ending_cancelled h asked, if_pos reached]
  | false =>
    have notReached : ¬ m ≤ found.checks := by simpa [StopSignal.after] using asked
    cases h with
    | cancelled stopped => cases stopped.symm.trans asked
    | @complete p _ run last =>
      have slots : p.slots.reduceOption =
          (found.files.take (m - found.checks - 1)).map work := by
        rw [Pool.slots_of_one run last, reduceOption_inTurn, Nat.sub_sub]
      have missing : (found.files.take (m - found.checks - 1)).length < found.files.length ↔
          m < found.checks + 1 + found.files.length := by
        rw [List.length_take]
        omega
      rw [if_neg notReached, Pool.analysis, assemble_result root _ slots]
      simp only [missing]

/-- What is kept under a lasting signal, when the walk has found all or has been stopped. -/
theorem kept_of_ending {whole : Discovery.Outcome} (hworkers : 0 < workers)
    (h : Pool.Ending workers stop work root found a)
    (walked : found = whole ∨
      List.IsPrefix found.warnings whole.warnings ∧ stop found.checks = true) :
    ∃ some subtree truncated, List.Sublist some whole.files ∧
      List.IsPrefix subtree whole.warnings ∧
      (truncated = false → some = whole.files ∧ subtree = whole.warnings) ∧
      a.result = resultOf work some subtree truncated := by
  rcases walked with rfl | ⟨warnings, stopped⟩
  · rcases of_ending hworkers h with ⟨-, result⟩ | ⟨some, sub, -, result⟩
    · exact ⟨[], found.warnings, true, List.nil_sublist _, List.prefix_rfl, by simp, result⟩
    · refine ⟨some, found.warnings, _, sub, List.prefix_rfl, fun h => ⟨?_, rfl⟩, result⟩
      rw [decide_eq_false_iff_not, Nat.not_lt] at h
      exact sub.eq_of_length_le h
  · exact ⟨[], found.warnings, true, List.nil_sublist _, warnings, by simp,
      of_ending_cancelled h stopped⟩

/-- A result with some of the files of a whole one is a part of it, and says so. -/
theorem resultOf_part (work : SourceFile → FileOutcome) {all some : List SourceFile}
    {subtree subtree' : List Warning} {truncated : Bool} (sub : List.Sublist some all)
    (missing : truncated = false → some = all ∧ subtree' = subtree) :
    (some ≠ all → (resultOf work some subtree' truncated).truncated = true) ∧
      List.Sublist (resultOf work some subtree' truncated).files
        (resultOf work all subtree false).files ∧
      ((resultOf work some subtree' truncated).truncated = false →
        resultOf work some subtree' truncated = resultOf work all subtree false) := by
  refine ⟨fun other => ?_, sub.map _, fun h => ?_⟩
  · cases truncated with
    | true => rfl
    | false => exact absurd (missing rfl).1 other
  · obtain rfl : truncated = false := h
    rw [(missing rfl).1, (missing rfl).2]

end Analysis

/-- Under a lasting signal the walk finds all that there is, or it is stopped and the signal is
still on behind it. -/
theorem found_lasting {d : Disk} (hd : d.IsProper) {root : Path} (c : Config) {e : Entry}
    (hroot : Discovery.Listable d root e) (habs : Path.isAbsolute root = true) (read : FileReader)
    (parse : SourceParser) {stop : StopSignal} (lasting : stop.IsLasting) :
    ∃ found, discover d root c stop = .ok found ∧
      (∀ f ∈ found.files, analyzeFileRead read parse f = .ok (.ofFile read parse f)) ∧
      (found = Discovery.whole d root c e ∨
        List.IsPrefix found.warnings (Discovery.whole d root c e).warnings ∧
          stop found.checks = true ∧ found.checks ≤ (Discovery.whole d root c e).checks) := by
  rcases Discovery.discover_cases (c := c) hd hroot stop with
    ⟨-, same⟩ | ⟨k, cut, before, stopped, hcut, checks, warnings, eligible⟩
  · exact ⟨_, same.trans (Discovery.discover_never hd hroot),
      analyzeFileRead_of_whole hd hroot habs read parse, .inl rfl⟩
  · refine ⟨cut, hcut, fun f hf => ?_, .inr ⟨warnings, ?_, ?_⟩⟩
    · obtain ⟨q, hq, rfl⟩ := eligible f hf
      exact analyzeFileRead_of_eligible hd hroot habs hq
    · exact lasting k _ (by omega) stopped
    · rw [checks]
      exact before

section Whole

variable {d : Disk} {path : Path} {c : Config} {e : Entry} {read : FileReader}
  {parse : SourceParser} {env : Environment} {kept : Settings.Kept} {asked : Option Int} {n : Int}
  {stop : StopSignal} (hd : d.IsProper) (hroot : Discovery.Listable d (d.absolute path) e)
include hd hroot

theorem exists_analyzes_lasting (c : Config) (read : FileReader) (parse : SourceParser)
    (hcount : (Analysis.workerCount env kept asked).1 = .ok n) (lasting : stop.IsLasting) :
    ∃ a, Analyzes d read parse env kept ⟨path, c, asked, stop⟩ a := by
  obtain ⟨cut, hcut, hfiles, -⟩ :=
    found_lasting hd c hroot (hd.isAbsolute path) read parse lasting
  obtain ⟨a, h⟩ := Analysis.exists_ending n.toNat stop (.ofFile read parse) (d.absolute path) cut
  exact ⟨a, (analyzes_iff (r := ⟨path, c, asked, stop⟩) hcount hcut hfiles a).2 h⟩

/-- Under a lasting signal an analysis keeps some of the files that there are. -/
theorem kept_of_lasting (hcount : (Analysis.workerCount env kept asked).1 = .ok n)
    (lasting : stop.IsLasting) {a : Analysis}
    (h : Analyzes d read parse env kept ⟨path, c, asked, stop⟩ a) :
    ∃ some subtree truncated,
      List.Sublist some (Discovery.whole d (d.absolute path) c e).files ∧
      List.IsPrefix subtree (Discovery.whole d (d.absolute path) c e).warnings ∧
      (truncated = false → some = (Discovery.whole d (d.absolute path) c e).files ∧
        subtree = (Discovery.whole d (d.absolute path) c e).warnings) ∧
      a.result = Analysis.resultOf (.ofFile read parse) some subtree truncated := by
  have hworkers : 0 < n.toNat := by
    have := workerCount_pos hcount
    omega
  obtain ⟨cut, hcut, hfiles, walked⟩ :=
    found_lasting hd c hroot (hd.isAbsolute path) read parse lasting
  have ending := (analyzes_iff (r := ⟨path, c, asked, stop⟩) hcount hcut hfiles a).1 h
  exact Analysis.kept_of_ending hworkers ending (walked.imp_right fun h => ⟨h.1, h.2.1⟩)

/-- With one worker and a signal that lets some questions pass, an analysis keeps as many files as
questions are left when each directory has taken one, and the end of the walk another. -/
theorem result_of_after {m : Nat} (hcount : (Analysis.workerCount env kept asked).1 = .ok 1)
    {a : Analysis} (h : Analyzes d read parse env kept ⟨path, c, asked, .after m⟩ a) :
    a.result.files = ((Discovery.whole d (d.absolute path) c e).files.take
          (m - (Discovery.whole d (d.absolute path) c e).checks - 1)).map
        (fun f => (FileOutcome.ofFile read parse f).record) ∧
      (a.result.truncated = true ↔ m < (Discovery.whole d (d.absolute path) c e).checks + 1 +
        (Discovery.whole d (d.absolute path) c e).files.length) := by
  obtain ⟨cut, hcut, hfiles, walked⟩ := found_lasting hd c hroot (hd.isAbsolute path) read parse
    (StopSignal.after_isLasting m)
  have ending := (analyzes_iff (r := ⟨path, c, asked, .after m⟩) hcount hcut hfiles a).1 h
  rw [Analysis.of_ending_one ending]
  by_cases early : m ≤ cut.checks
  · -- The walk asks no more often when it is stopped.
    have le : cut.checks ≤ (Discovery.whole d (d.absolute path) c e).checks := by
      rcases walked with rfl | ⟨-, -, le⟩
      · exact le_rfl
      · exact le
    have none : m - (Discovery.whole d (d.absolute path) c e).checks - 1 = 0 := by omega
    rw [if_pos early, none, List.take_zero]
    exact ⟨rfl, iff_of_true rfl (by omega)⟩
  · obtain rfl := walked.resolve_right fun h => early (by simpa [StopSignal.after] using h.2.1)
    simp [if_neg early, Analysis.resultOf, AnalysisResult.ofParts]

end Whole

/-- Stopping an analysis is honest, whatever the steps of the workers are. Without a signal it keeps
all files that discovery finds. What it keeps when it is stopped are some of them, with the same
records, their own edges and their own warnings, and it says so when one is missing. With one worker
and a signal that lets some number of questions pass, it keeps as many of the first files as
questions are left behind the walk. -/
theorem cancellation_honest {d : Disk} (hd : d.IsProper) (path : Path) (c : Config) {e : Entry}
    (hroot : Discovery.Listable d (d.absolute path) e) (read : FileReader) (parse : SourceParser)
    (env : Environment) (kept : Settings.Kept) {asked : Option Int} {n : Int}
    (hcount : (Analysis.workerCount env kept asked).1 = .ok n) {stop : StopSignal}
    (lasting : stop.IsLasting) :
    ∃ found, discover d (d.absolute path) c .never = .ok found ∧
    (∀ w ∈ found.warnings, w.kind = .subtreeRead) ∧
    (∃ whole, Analyzes d read parse env kept ⟨path, c, asked, .never⟩ whole) ∧
    (∃ a, Analyzes d read parse env kept ⟨path, c, asked, stop⟩ a) ∧
    (∀ reached, Pool.Halts n.toNat stop (.ofFile read parse)
      (.ofDiscovery (d.absolute path) reached)) ∧
    (∀ whole a, Analyzes d read parse env kept ⟨path, c, asked, .never⟩ whole →
      Analyzes d read parse env kept ⟨path, c, asked, stop⟩ a →
      whole.result.files = found.files.map (fun f => (FileOutcome.ofFile read parse f).record) ∧
      whole.result.warnings = found.warnings ++
        found.files.filterMap (fun f => (FileOutcome.ofFile read parse f).warning) ∧
      (∃ some subtree, List.Sublist some found.files ∧ List.IsPrefix subtree found.warnings ∧
        a.result.files = some.map (fun f => (FileOutcome.ofFile read parse f).record) ∧
        a.result.warnings =
          subtree ++ some.filterMap (fun f => (FileOutcome.ofFile read parse f).warning) ∧
        (some ≠ found.files → a.result.truncated = true)) ∧
      List.Sublist a.result.files whole.result.files ∧
      a.result.dependencies = edgesOf a.result.files ∧
      (a.result.truncated = false → a.result = whole.result)) ∧
    (n = 1 → ∀ (m : Nat) (a : Analysis),
      Analyzes d read parse env kept ⟨path, c, asked, .after m⟩ a →
      ∀ directories : List (List Name), directories.Nodup →
        (∀ q, q ∈ directories ↔ Discovery.Listed c e q) →
        a.result.files = (found.files.take (m - directories.length - 1)).map
          (fun f => (FileOutcome.ofFile read parse f).record) ∧
        (a.result.truncated = true ↔ m < directories.length + 1 + found.files.length)) := by
  refine ⟨_, Discovery.discover_never hd hroot, fun w => kind_of_mem_whole,
    exists_analyzes_never hd c hroot read parse hcount,
    exists_analyzes_lasting hd hroot c read parse hcount lasting, fun _ => Pool.halts _, ?_, ?_⟩
  · intro whole a hwhole ha
    obtain ⟨some, subtree, truncated, sub, pre, missing, result⟩ :=
      kept_of_lasting hd hroot hcount lasting ha
    obtain ⟨told, files, same⟩ := Analysis.resultOf_part (.ofFile read parse) sub missing
    rw [result, result_of_never hd hroot hcount hwhole]
    exact ⟨rfl, rfl, ⟨some, subtree, sub, pre, rfl, rfl, told⟩, files, rfl, same⟩
  · rintro rfl m a ha directories nodup mem
    have listed : directories.length = (Discovery.whole d (d.absolute path) c e).checks :=
      (Discovery.listedCount_walk hd hroot nodup mem).symm
    rw [listed]
    exact result_of_after hd hroot hcount ha

theorem cancellation_honest_sample : ∃ found whole a,
    discover Discovery.Sample.disk (Discovery.Sample.disk.absolute Discovery.Sample.root)
      .standard .never = .ok found ∧
    Analyzes Discovery.Sample.disk Discovery.Sample.disk.reader (fun _ _ => default) [] none
      ⟨Discovery.Sample.root, .standard, some 1, .never⟩ whole ∧
    Analyzes Discovery.Sample.disk Discovery.Sample.disk.reader (fun _ _ => default) [] none
      ⟨Discovery.Sample.root, .standard, some 1, .after 2⟩ a ∧
    whole.result.files.length = found.files.length ∧
    List.Sublist a.result.files whole.result.files := by
  have count : (Analysis.workerCount [] none (some 1)).1 = .ok 1 := rfl
  obtain ⟨found, walked, -, ⟨whole, h⟩, ⟨a, h'⟩, -, parts, -⟩ :=
    cancellation_honest Discovery.Sample.disk_isProper Discovery.Sample.root .standard
      Discovery.Sample.disk_listable Discovery.Sample.disk.reader (fun _ _ => default) [] none
      count (StopSignal.after_isLasting 2)
  obtain ⟨files, -, -, sub, -⟩ := parts whole a h h'
  exact ⟨found, whole, a, walked, h, h', by rw [files, List.length_map], sub⟩

end ModuleAtlas
