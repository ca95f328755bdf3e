import ModuleAtlas.Proofs.Analysis.Workers
import ModuleAtlas.Proofs.Discovery.Exactness
import Mathlib.Data.List.ReduceOption

/-!
# Results of an analysis

An analysis is told by the files that it keeps: all that the walk has found, or only some of them
when the signal has stopped it. Everything in its result comes from those files and from the walk.

## Main definitions

* `Analysis.resultOf` — the result of some files with the outcomes of their work.
-/
namespace ModuleAtlas

namespace Analysis

/-- The result of some files with the outcomes of their work, behind the warnings of a walk. -/
def resultOf (work : SourceFile → FileOutcome) (files : List SourceFile) (subtree : List Warning)
    (truncated : Bool) : AnalysisResult :=
  let records := files.map fun f => (work f).record
  .ofParts records (edgesOf records) (subtree ++ files.filterMap fun f => (work f).warning)
    truncated

variable {work : SourceFile → FileOutcome} {files kept : List SourceFile}
  {slots : List (Option FileOutcome)}

/-- The files that are kept are those with an outcome. -/
theorem exists_kept {stops : Prop}
    (h : List.Forall₂ (fun f o => o = some (work f) ∨ o = none ∧ stops) files slots) :
    ∃ kept, List.Sublist kept files ∧ slots.reduceOption = kept.map work ∧
      (kept ≠ files → stops) := by
  induction h with
  | nil => exact ⟨[], .slnil, rfl, fun h => absurd rfl h⟩
  | @cons f o files slots ho _ ih =>
    obtain ⟨kept, sub, outcomes, missing⟩ := ih
    rcases ho with rfl | ⟨rfl, stopped⟩
    · refine ⟨f :: kept, sub.cons_cons f, ?_, fun h => missing fun same => h (by rw [same])⟩
      rw [List.reduceOption_cons_of_some, outcomes, List.map_cons]
    · refine ⟨kept, sub.cons f, ?_, fun _ => stopped⟩
      rw [List.reduceOption_cons_of_none, outcomes]

theorem assemble_result {found : Discovery.Outcome} (root : Path) (logged : Log)
    (h : slots.reduceOption = kept.map work) : (assemble root found slots logged).result =
      resultOf work kept found.warnings (decide (kept.length < found.files.length)) := by
  simp only [assemble, resultOf, h, List.map_map, List.filterMap_map, List.length_map]
  rfl

/-! ## Endings -/

variable {workers : Nat} {stop : StopSignal} {root : Path} {found : Discovery.Outcome}

theorem exists_ending (workers : Nat) (stop : StopSignal) (work : SourceFile → FileOutcome)
    (root : Path) (found : Discovery.Outcome) :
    ∃ a, Pool.Ending workers stop work root found a := by
  cases h : stop found.checks with
  | true => exact ⟨_, .cancelled h⟩
  | false =>
    obtain ⟨p, run, last⟩ := Pool.exists_last (Pool.ofDiscovery root found)
    exact ⟨_, .complete h run last⟩

/-- An analysis is cancelled after the walk, or it keeps some of the files that the walk has found,
and all of them if the signal does not stop it. -/
theorem of_ending {a : Analysis} (hworkers : 0 < workers)
    (h : Pool.Ending workers stop work root found a) :
    stop found.checks = true ∧ a.result = resultOf work [] found.warnings true ∨
      ∃ kept, List.Sublist kept found.files ∧
        (kept ≠ found.files → ∃ k, found.checks + 1 ≤ k ∧ stop k = true) ∧
        a.result = resultOf work kept found.warnings
          (decide (kept.length < found.files.length)) := by
  cases h with
  | cancelled stopped => exact .inl ⟨stopped, by simp [cancelled, resultOf, edgesOf]⟩
  | complete goesOn run last =>
    obtain ⟨kept, sub, outcomes, missing⟩ := exists_kept (Pool.slots_of_last hworkers run last)
    exact .inr ⟨kept, sub, missing, assemble_result root _ outcomes⟩

/-- Without a stop signal all files are kept, whatever the steps of the workers. -/
theorem of_ending_never {a : Analysis} (hworkers : 0 < workers)
    (h : Pool.Ending workers .never work root found a) :
    a.result = resultOf work found.files found.warnings false := by
  rcases of_ending hworkers h with ⟨stopped, -⟩ | ⟨kept, -, missing, result⟩
  · cases stopped
  · have all : kept = found.files := by
      by_contra h
      obtain ⟨k, -, stopped⟩ := missing h
      cases stopped
    simpa [all] using result

/-! ## One worker -/

/-- One worker keeps as many files as the signal lets pass. -/
theorem reduceOption_inTurn (n base : Nat) (files : List SourceFile) :
    (Pool.inTurn (.after n) work base files).reduceOption = (files.take (n - base)).map work := by
  induction files generalizing base with
  | nil => simp [Pool.inTurn]
  | cons f files ih =>
    have asked : StopSignal.after n base = decide (n ≤ base) := rfl
    rw [Pool.inTurn_cons, asked]
    by_cases h : n ≤ base
    · have later : n - (base + 1) = 0 := by omega
      have now : n - base = 0 := by omega
      simp only [h, decide_true, if_true, List.reduceOption_cons_of_none]
      rw [ih, later, now, List.take_zero, List.take_zero]
    · obtain ⟨m, hm⟩ : ∃ m, n - base = m + 1 := ⟨n - base - 1, by omega⟩
      have later : n - (base + 1) = m := by omega
      simp only [h, decide_false, Bool.false_eq_true, if_false, List.reduceOption_cons_of_some]
      rw [ih, later, hm, List.take_succ_cons, List.map_cons]

end Analysis

/-! ## The whole analysis -/

section Whole

variable {d : Disk} {read : FileReader} {parse : SourceParser} {env : Environment}
  {kept : Settings.Kept} {r : AnalysisRequest} {found : Discovery.Outcome} {n : Int}

theorem workerCount_pos {asked : Option Int}
    (h : (Analysis.workerCount env kept asked).1 = .ok n) : 0 < n := by
  unfold Analysis.workerCount at h
  split at h
  · cases h
    omega
  · cases settings : (Settings.get env kept).1 with
    | faults fs => simp [settings, Schema.Checked.map] at h
    | ok s =>
      simp only [settings, Schema.Checked.map, Schema.Checked.ok.injEq] at h
      omega

/-- The endings of an analysis, once it is known what the walk has found. -/
theorem analyzes_iff (hcount : (Analysis.workerCount env kept r.workers).1 = .ok n)
    (hfound : discover d (d.absolute r.root) r.config r.stop = .ok found)
    (hfiles : ∀ f ∈ found.files, analyzeFileRead read parse f = .ok (.ofFile read parse f))
    (a : Analysis) : Analyzes d read parse env kept r a ↔
      Pool.Ending n.toNat r.stop (.ofFile read parse) (d.absolute r.root) found a := by
  constructor
  · rintro ⟨m, found', hm, hfound', -, ending⟩
    cases hm.symm.trans hcount
    cases hfound'.symm.trans hfound
    exact ending
  · exact fun ending => ⟨n, found, hcount, hfound, fun f hf => ⟨_, hfiles f hf⟩, ending⟩

/-- The files that are analyzed without workers come to the result of one worker. -/
theorem analyzeReading_eq (hcount : (Analysis.workerCount env kept r.workers).1 = .ok n)
    (hfound : discover d (d.absolute r.root) r.config r.stop = .ok found)
    (hfiles : ∀ f ∈ found.files, analyzeFileRead read parse f = .ok (.ofFile read parse f)) :
    ∃ a, (analyzeReading d read parse env kept r).1 = .ok a ∧
      ∀ a', Pool.Ending 1 r.stop (.ofFile read parse) (d.absolute r.root) found a' →
        a.result = a'.result := by
  have settled : (analyzeReading d read parse env kept r).1 =
      (Analysis.ofDiscovery read parse (d.absolute r.root) r.stop found).mapError .file := by
    rw [analyzeReading]
    split
    · next hm => simp [hm] at hcount
    · simp only [hfound]
  rw [settled, Analysis.ofDiscovery, Pool.outcomes_eq hfiles]
  cases asked : r.stop found.checks with
  | true =>
    refine ⟨_, rfl, fun a' h => ?_⟩
    cases h with
    | cancelled _ => rfl
    | complete goesOn _ _ => cases goesOn.symm.trans asked
  | false =>
    refine ⟨_, rfl, fun a' h => ?_⟩
    cases h with
    | cancelled stopped => cases stopped.symm.trans asked
    | complete _ run last =>
      rw [Pool.analysis, Pool.slots_of_one run last]
      rfl

/-- Every file that a walk finds has an outcome. -/
theorem analyzeFileRead_of_eligible {root : Path} {c : Config} {e : Entry} {q : List Name}
    (hd : d.IsProper) (hroot : Discovery.Listable d root e) (habs : Path.isAbsolute root = true)
    (h : Discovery.Eligible d root c e q) :
    analyzeFileRead read parse (Discovery.sourceFile root q) =
      .ok (.ofFile read parse (Discovery.sourceFile root q)) :=
  analyzeFileRead_sourceFile habs (Discovery.openRoot_eq_ok.1 hroot.opened).2.1
    (h.isProper (hroot.isProper hd)) h.ne_nil read parse

/-- So has every file that a walk comes back with, whatever has stopped it. -/
theorem analyzeFileRead_of_discover {root : Path} {c : Config} {stop : StopSignal} (hd : d.IsProper)
    (habs : Path.isAbsolute root = true) (h : discover d root c stop = .ok found)
    (read : FileReader) (parse : SourceParser) :
    ∀ f ∈ found.files, analyzeFileRead read parse f = .ok (.ofFile read parse f) := by
  obtain ⟨e, places, opened, he, -, eligible, files⟩ := Discovery.files_of_discover hd h
  intro f hf
  rw [files] at hf
  obtain ⟨q, hq, rfl⟩ := List.mem_map.1 hf
  exact analyzeFileRead_sourceFile habs (Discovery.openRoot_eq_ok.1 opened).2.1
    ((eligible q hq).isProper he) (eligible q hq).ne_nil read parse

/-! ## Any stop signal -/

/-- Whatever the steps of the workers are, an analysis keeps some of the files that the walk has
come back with. -/
theorem kept_of_analyzes {a : Analysis} (h : Analyzes d read parse env kept r a) :
    ∃ found files subtree truncated, discover d (d.absolute r.root) r.config r.stop = .ok found ∧
      List.Sublist files found.files ∧
      a.result = Analysis.resultOf (.ofFile read parse) files subtree truncated := by
  obtain ⟨workers, found, hcount, hfound, -, ending⟩ := h
  have hworkers : 0 < workers.toNat := by
    have := workerCount_pos hcount
    omega
  rcases Analysis.of_ending hworkers ending with ⟨-, result⟩ | ⟨files, sub, -, result⟩
  · exact ⟨found, [], _, _, hfound, List.nil_sublist _, result⟩
  · exact ⟨found, files, _, _, hfound, sub, result⟩

/-- What an analysis without workers comes to: the settings cannot be read, the root cannot be read,
or there is a result, which is that of one worker. -/
theorem analyzeReading_cases (hd : d.IsProper) (read : FileReader) (parse : SourceParser)
    (env : Environment) (kept : Settings.Kept) (r : AnalysisRequest) :
    (∃ fs, (Analysis.workerCount env kept r.workers).1 = .faults fs ∧
      (analyzeReading d read parse env kept r).1 = .error (.settings fs)) ∨
    (∃ n f, (Analysis.workerCount env kept r.workers).1 = .ok n ∧
      discover d (d.absolute r.root) r.config r.stop = .error f ∧
      (analyzeReading d read parse env kept r).1 = .error (.discovery f)) ∨
    ∃ n found a, (Analysis.workerCount env kept r.workers).1 = .ok n ∧
      discover d (d.absolute r.root) r.config r.stop = .ok found ∧
      (analyzeReading d read parse env kept r).1 = .ok a ∧
      ∀ a', Pool.Ending 1 r.stop (.ofFile read parse) (d.absolute r.root) found a' →
        a.result = a'.result := by
  cases hcount : (Analysis.workerCount env kept r.workers).1 with
  | faults fs =>
    refine .inl ⟨fs, rfl, ?_⟩
    rw [analyzeReading]
    split
    · next hfs => simp_all
    · next hn => simp [hn] at hcount
  | ok n =>
    cases hfound : discover d (d.absolute r.root) r.config r.stop with
    | error f =>
      refine .inr (.inl ⟨n, f, rfl, rfl, ?_⟩)
      rw [analyzeReading]
      split
      · next hfs => simp [hfs] at hcount
      · simp [hfound]
    | ok found =>
      have hfiles := analyzeFileRead_of_discover hd (hd.isAbsolute r.root) hfound read parse
      obtain ⟨a, done, alike⟩ := analyzeReading_eq hcount hfound hfiles
      exact .inr (.inr ⟨n, found, a, rfl, rfl, done, alike⟩)

theorem kept_of_analyzeReading (hd : d.IsProper) {a : Analysis}
    (h : (analyzeReading d read parse env kept r).1 = .ok a) :
    ∃ found files subtree truncated, discover d (d.absolute r.root) r.config r.stop = .ok found ∧
      List.Sublist files found.files ∧
      a.result = Analysis.resultOf (.ofFile read parse) files subtree truncated := by
  rcases analyzeReading_cases hd read parse env kept r with
    ⟨fs, -, failed⟩ | ⟨n, f, -, -, failed⟩ | ⟨n, found, a', -, hfound, done, alike⟩
  · cases failed.symm.trans h
  · cases failed.symm.trans h
  · cases done.symm.trans h
    have hfiles := analyzeFileRead_of_discover hd (hd.isAbsolute r.root) hfound read parse
    obtain ⟨one, ending⟩ := Analysis.exists_ending 1 r.stop (.ofFile read parse)
      (d.absolute r.root) found
    have run : Analyzes d read parse env kept { r with workers := some 1 } one :=
      (analyzes_iff (r := { r with workers := some 1 }) (n := 1) rfl hfound hfiles one).2 ending
    rw [alike one ending]
    exact kept_of_analyzes (r := { r with workers := some 1 }) run

/-! ## Without a stop signal -/

variable {root : Path} {c : Config} {e : Entry} {asked : Option Int} {path : Path}

theorem analyzeFileRead_of_whole (hd : d.IsProper) (hroot : Discovery.Listable d root e)
    (habs : Path.isAbsolute root = true) (read : FileReader) (parse : SourceParser) :
    ∀ f ∈ (Discovery.whole d root c e).files,
      analyzeFileRead read parse f = .ok (.ofFile read parse f) := by
  intro f hf
  obtain ⟨q, hq, rfl⟩ := List.mem_map.1 hf
  exact analyzeFileRead_of_eligible hd hroot habs ((Discovery.mem_places hd hroot).1 hq)

theorem kind_of_mem_whole {w : Warning} (h : w ∈ (Discovery.whole d root c e).warnings) :
    w.kind = .subtreeRead := by
  obtain ⟨x, -, rfl⟩ := List.mem_map.1 h
  rfl

/-- An analysis that nothing stops is an ending of the workers on all files that there are. -/
theorem analyzes_never_iff (hd : d.IsProper) (hroot : Discovery.Listable d (d.absolute path) e)
    (hcount : (Analysis.workerCount env kept asked).1 = .ok n) (a : Analysis) :
    Analyzes d read parse env kept ⟨path, c, asked, .never⟩ a ↔
      Pool.Ending n.toNat .never (.ofFile read parse) (d.absolute path)
        (Discovery.whole d (d.absolute path) c e) a :=
  analyzes_iff (r := ⟨path, c, asked, .never⟩) hcount (Discovery.discover_never hd hroot)
    (analyzeFileRead_of_whole hd hroot (hd.isAbsolute path) read parse) a

theorem exists_analyzes_never (hd : d.IsProper) (c : Config)
    (hroot : Discovery.Listable d (d.absolute path) e) (read : FileReader) (parse : SourceParser)
    (hcount : (Analysis.workerCount env kept asked).1 = .ok n) :
    ∃ a, Analyzes d read parse env kept ⟨path, c, asked, .never⟩ a := by
  obtain ⟨a, h⟩ := Analysis.exists_ending n.toNat .never (.ofFile read parse) (d.absolute path)
    (Discovery.whole d (d.absolute path) c e)
  exact ⟨a, (analyzes_never_iff hd hroot hcount a).2 h⟩

theorem result_of_never (hd : d.IsProper) (hroot : Discovery.Listable d (d.absolute path) e)
    (hcount : (Analysis.workerCount env kept asked).1 = .ok n) {a : Analysis}
    (h : Analyzes d read parse env kept ⟨path, c, asked, .never⟩ a) :
    a.result = Analysis.resultOf (.ofFile read parse)
      (Discovery.whole d (d.absolute path) c e).files
      (Discovery.whole d (d.absolute path) c e).warnings false := by
  refine Analysis.of_ending_never ?_ ((analyzes_never_iff hd hroot hcount a).1 h)
  have := workerCount_pos hcount
  omega

end Whole

end ModuleAtlas
