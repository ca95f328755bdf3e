import ModuleAtlas.Proofs.Analysis.Accounting
import ModuleAtlas.Proofs.Record.Serialization

/-!
# What an analysis may fail with

An analysis fails when its root cannot be read, and when it needs settings that cannot be read.
Nothing else keeps it from a result: no file, no stop signal, and no number of workers.

## Main definitions

* `Environment.Readable` — the settings that an environment gives can be read.
* `Settings.AtHand` — an analysis does not need settings, or they can be read.
-/
namespace ModuleAtlas

open Schema Checked

/-! ## Settings -/

/-- The variables that are meant to be integers, where there are any, can be read as integers. -/
def Environment.Readable (e : Environment) : Prop :=
  ∀ name ∈ ["depgraph_max_workers", "depgraph_api_port"], ∀ value, e.find? name = some value →
    ∃ n, readIntText value = ok n

namespace Settings

theorem exists_fromVariable {α : Type} {e : Environment} {name key : String}
    {read : String → Checked α} {a : α} : (∃ b, fromVariable e name key read a = ok b) ↔
      ∀ value, e.find? name = some value → ∃ b, read value = ok b := by
  rw [fromVariable]
  cases e.find? name <;> simp [within_eq_ok]

theorem exists_ofEnvironment {e : Environment} :
    (∃ s, ofEnvironment e = ok s) ↔ e.Readable := by
  have level : ∃ s, fromVariable e "depgraph_log_level" "LOG_LEVEL" ok standard.logLevel = ok s :=
    exists_fromVariable.2 fun value _ => ⟨value, rfl⟩
  have host : ∃ s, fromVariable e "depgraph_api_host" "API_HOST" ok standard.apiHost = ok s :=
    exists_fromVariable.2 fun value _ => ⟨value, rfl⟩
  obtain ⟨level, hlevel⟩ := level
  obtain ⟨host, hhost⟩ := host
  have readable : e.Readable ↔
      (∃ n, fromVariable e "depgraph_max_workers" "MAX_WORKERS" readIntText standard.maxWorkers =
        ok n) ∧
      ∃ n, fromVariable e "depgraph_api_port" "API_PORT" readIntText standard.apiPort = ok n := by
    simp only [Environment.Readable, exists_fromVariable, List.forall_mem_cons, List.not_mem_nil,
      false_imp_iff, implies_true, and_true]
  simp only [readable, ofEnvironment, hlevel, hhost, map_ok, seq_eq_ok]
  constructor
  · rintro ⟨s, g, port, ⟨h, address, ⟨i, workers, -, hworkers, -⟩, -, -⟩, hport, -⟩
    exact ⟨⟨workers, hworkers⟩, port, hport⟩
  · rintro ⟨⟨workers, hworkers⟩, port, hport⟩
    exact ⟨_, _, port, ⟨_, host, ⟨_, workers, rfl, hworkers, rfl⟩, rfl, rfl⟩, hport, rfl⟩

/-- An analysis is given a number of workers, or settings are kept, or those of the environment can
be read. -/
def AtHand (e : Environment) (kept : Kept) (asked : Option Int) : Prop :=
  (∃ n, asked = some n ∧ n ≠ 0) ∨ (∃ s, kept = some s) ∨ e.Readable

theorem exists_get {e : Environment} {kept : Kept} :
    (∃ s, (get e kept).1 = ok s) ↔ (∃ s, kept = some s) ∨ e.Readable := by
  rw [← exists_ofEnvironment]
  cases kept with
  | some s => simp [get]
  | none => cases settings : ofEnvironment e <;> simp [get, settings]

theorem exists_workerCount {e : Environment} {kept : Kept} {asked : Option Int} :
    (∃ n, (Analysis.workerCount e kept asked).1 = ok n) ↔ AtHand e kept asked := by
  rw [AtHand, ← exists_get, Analysis.workerCount]
  cases given : asked.filter (· ≠ 0) with
  | some n =>
    obtain ⟨asked, nonzero⟩ : asked = some n ∧ n ≠ 0 := by simpa using given
    simp [asked, nonzero]
  | none =>
    have notGiven : ¬ ∃ n, asked = some n ∧ n ≠ 0 := by
      rintro ⟨n, rfl, nonzero⟩
      simp [nonzero] at given
    cases settings : (get e kept).1 <;> simp [notGiven, Checked.map, settings]

end Settings

/-! ## Results -/

section Whole

variable {d : Disk} {read : FileReader} {parse : SourceParser} {env : Environment}
  {kept : Settings.Kept} {r : AnalysisRequest}

/-- The paths of the files of a walk are paths that records may have. -/
theorem isPlaced_resultOf {files : List SourceFile}
    (h : ∀ f ∈ files, ∃ o, analyzeFileRead read parse f = .ok o) (subtree : List Warning)
    (truncated : Bool) :
    (Analysis.resultOf (.ofFile read parse) files subtree truncated).IsPlaced := by
  intro record mem
  obtain ⟨f, hf, rfl⟩ : ∃ f ∈ files, (FileOutcome.ofFile read parse f).record = record := by
    simpa [Analysis.resultOf, AnalysisResult.ofParts] using mem
  obtain ⟨o, ho⟩ := h f hf
  rw [FileRecord.IsPlaced, FileOutcome.path_ofFile]
  exact (analyzeFileRead_eq_ok.1 ho).2.1

/-- A result that keeps files of a walk is one that its class admits. -/
theorem isPlaced_of_kept (hd : d.IsProper) {result : AnalysisResult}
    (h : ∃ found files subtree truncated,
      discover d (d.absolute r.root) r.config r.stop = .ok found ∧
      List.Sublist files found.files ∧
      result = Analysis.resultOf (.ofFile read parse) files subtree truncated) :
    result.IsPlaced := by
  obtain ⟨found, files, subtree, truncated, hfound, sub, rfl⟩ := h
  have hfiles := analyzeFileRead_of_discover hd (hd.isAbsolute r.root) hfound read parse
  exact isPlaced_resultOf (fun f hf => ⟨_, hfiles f (sub.subset hf)⟩) subtree truncated

end Whole

/-- Where settings are at hand, an analysis has a result or fails with its root, whatever the tree,
the signal and the number of workers are: no file that is found fails, every run of the workers
ends, and each ending is a result that its class admits. Where they are not, it fails with the
settings. -/
theorem fails_only_with_root {d : Disk} (hd : d.IsProper) (read : FileReader) (parse : SourceParser)
    (env : Environment) (kept : Settings.Kept) (r : AnalysisRequest) :
    (Settings.AtHand env kept r.workers →
      (∃ f, discover d (d.absolute r.root) r.config r.stop = .error f ∧
        (analyzeReading d read parse env kept r).1 = .error (.discovery f)) ∨
      ∃ found a, discover d (d.absolute r.root) r.config r.stop = .ok found ∧
        (analyzeReading d read parse env kept r).1 = .ok a ∧ a.result.IsPlaced ∧
        (∀ f ∈ found.files, ∃ o, analyzeFileRead read parse f = .ok o) ∧
        (∀ workers, Pool.Halts workers r.stop (.ofFile read parse)
          (.ofDiscovery (d.absolute r.root) found)) ∧
        (∃ a, Analyzes d read parse env kept r a) ∧
        ∀ a, Analyzes d read parse env kept r a → a.result.IsPlaced) ∧
    (¬ Settings.AtHand env kept r.workers →
      ∃ fs, (analyzeReading d read parse env kept r).1 = .error (.settings fs)) := by
  rcases analyzeReading_cases hd read parse env kept r with
    ⟨fs, count, failed⟩ | ⟨n, f, count, hfound, failed⟩ | ⟨n, found, a, count, hfound, done, -⟩
  · have missing : ¬ Settings.AtHand env kept r.workers := by
      rw [← Settings.exists_workerCount]
      rintro ⟨n, given⟩
      cases count.symm.trans given
    exact ⟨fun atHand => absurd atHand missing, fun _ => ⟨fs, failed⟩⟩
  · have atHand := Settings.exists_workerCount.1 ⟨n, count⟩
    exact ⟨fun _ => .inl ⟨f, hfound, failed⟩, fun missing => absurd atHand missing⟩
  · have atHand := Settings.exists_workerCount.1 ⟨n, count⟩
    have hfiles := analyzeFileRead_of_discover hd (hd.isAbsolute r.root) hfound read parse
    obtain ⟨one, ending⟩ := Analysis.exists_ending n.toNat r.stop (.ofFile read parse)
      (d.absolute r.root) found
    refine ⟨fun _ => .inr ⟨found, a, hfound, done,
      isPlaced_of_kept hd (kept_of_analyzeReading hd done), fun f hf => ⟨_, hfiles f hf⟩,
      fun _ => Pool.halts _, ⟨one, (analyzes_iff count hfound hfiles one).2 ending⟩,
      fun a h => isPlaced_of_kept hd (kept_of_analyzes h)⟩, fun missing => absurd atHand missing⟩

/-- A port that is no number, in an environment that gives nothing else. -/
def Environment.faultyPort : Environment := [("DEPGRAPH_API_PORT", "http")]

theorem Environment.not_readable_faultyPort : ¬ faultyPort.Readable := by
  intro readable
  obtain ⟨n, read⟩ := readable "depgraph_api_port" (by simp) "http" (by decide +kernel)
  have refused : readIntText "http" = fail .unreadableInt := by rfl
  cases refused.symm.trans read

theorem Settings.not_atHand_faultyPort : ¬ AtHand .faultyPort none none := by
  rintro (⟨n, ⟨⟩, -⟩ | ⟨s, ⟨⟩⟩ | readable)
  exact Environment.not_readable_faultyPort readable

theorem fails_only_with_root_sample :
    (∃ a, (analyzeReading Discovery.Sample.disk Discovery.Sample.disk.reader (fun _ _ => default) []
      none ⟨Discovery.Sample.root, .standard, none, .after 1⟩).1 = .ok a ∧ a.result.IsPlaced) ∧
    ∃ fs, (analyzeReading Discovery.Sample.disk Discovery.Sample.disk.reader (fun _ _ => default)
      .faultyPort none ⟨Discovery.Sample.root, .standard, none, .after 1⟩).1 =
        .error (.settings fs) := by
  have hd := Discovery.Sample.disk_isProper
  have readable : Environment.Readable [] := fun _ _ _ h => nomatch h
  refine ⟨?_, (fails_only_with_root hd _ _ .faultyPort none
    ⟨Discovery.Sample.root, .standard, none, .after 1⟩).2 Settings.not_atHand_faultyPort⟩
  rcases (fails_only_with_root hd Discovery.Sample.disk.reader (fun _ _ => default) [] none
      ⟨Discovery.Sample.root, .standard, none, .after 1⟩).1 (.inr (.inr readable)) with
    ⟨f, failed, -⟩ | ⟨found, a, -, done, placed, -⟩
  · cases (Discovery.discover_eq hd Discovery.Sample.disk_listable _).symm.trans failed
  · exact ⟨a, done, placed⟩

/-- A port that is no number keeps a tree from being analyzed, though an analysis has no port. -/
theorem settings_fault_escapes : Discovery.Sample.disk.IsProper ∧
    ¬ ((∃ a, (analyzeReading Discovery.Sample.disk Discovery.Sample.disk.reader
        (fun _ _ => default) .faultyPort none
        ⟨Discovery.Sample.root, .standard, none, .never⟩).1 = .ok a) ∨
      ∃ f, (analyzeReading Discovery.Sample.disk Discovery.Sample.disk.reader
        (fun _ _ => default) .faultyPort none
        ⟨Discovery.Sample.root, .standard, none, .never⟩).1 = .error (.discovery f)) := by
  have hd := Discovery.Sample.disk_isProper
  have noCount : ¬ ∃ n, (Analysis.workerCount .faultyPort none none).1 = .ok n :=
    fun given => Settings.not_atHand_faultyPort (Settings.exists_workerCount.1 given)
  refine ⟨hd, ?_⟩
  rcases analyzeReading_cases hd Discovery.Sample.disk.reader (fun _ _ => default)
      .faultyPort none ⟨Discovery.Sample.root, .standard, none, .never⟩ with
    ⟨fs, -, failed⟩ | ⟨n, f, count, -⟩ | ⟨n, found, a, count, -⟩
  · simp [failed]
  · exact absurd ⟨n, count⟩ noCount
  · exact absurd ⟨n, count⟩ noCount

end ModuleAtlas
