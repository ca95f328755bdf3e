import ModuleAtlas.Proofs.Analysis.Endings
import ModuleAtlas.Proofs.Analysis.Ledger

/-!
# Schedules of the workers

Without a stop signal, the order in which tasks are taken, begun, finished and handed in decides
nothing. Each file is read once, each outcome comes to the slot of its own file, and the result is
that of the files read one after the other.

## Main definitions

* `Pool.EachOnce` — each file has been begun, finished and handed in once.
-/
namespace ModuleAtlas

namespace Pool

variable {workers : Nat} {work : SourceFile → FileOutcome} {files : List SourceFile}

/-- Each file has been begun, finished and handed in once, with the outcome of its own work. -/
structure EachOnce (work : SourceFile → FileOutcome) (files : List SourceFile) (es : List Event) :
    Prop where
  begun : (es.filterMap Event.begun?).Perm (Task.ofFiles files)
  finished : (es.filterMap Event.finished?).Perm (Task.ofFiles files)
  handedIn : (es.filterMap Event.handedIn?).Perm
    ((Task.ofFiles files).map fun t => (t.place, some (work t.file)))

/-- When nothing is left to do, all that the events have put into the pool has left it. -/
theorem Ledger.of_finished {past : List Event} {p : Pool} (h : Ledger work files past p)
    (done : p.Finished) : (past.filterMap Event.asked?).Perm (Task.ofFiles files) ∧
      (past.filterMap Event.over?).Perm (Task.ofFiles files) ∧
      (past.filterMap Event.handedIn?).Perm (past.filterMap (Event.ended? work)) := by
  obtain ⟨queue, taken, reading, ended⟩ := done
  have all := h.queue
  have hasked := h.taken
  have hover := h.reading
  have hended := h.ended
  rw [queue, List.append_nil] at all
  rw [taken, List.append_nil, all] at hasked
  rw [reading, List.append_nil] at hover
  rw [ended, List.append_nil] at hended
  exact ⟨hasked.symm, (hasked.trans hover).symm, hended.symm⟩

/-- Without a stop signal no task is let be. -/
theorem Runs.no_letBe {p q : Pool} {es : List Event} (run : Runs workers .never work p es q)
    (t : Task) : Event.letBe t ∉ es := by
  induction run with
  | refl p => exact List.not_mem_nil
  | more first _ ih =>
    rw [List.mem_cons, not_or]
    refine ⟨?_, ih⟩
    rintro rfl
    cases first with
    | letBe here stopped => cases stopped

/-- Without a stop signal each file is begun, finished and handed in once. -/
theorem Runs.eachOnce {p : Pool} {es : List Event} {checks : Nat} {log : Log}
    (hworkers : 0 < workers) (run : Runs workers .never work (start files checks log) es p)
    (last : ∀ q, ¬ Step workers .never work p q) : EachOnce work files es := by
  obtain ⟨asked, ended, handedIn⟩ := run.ledger.of_finished (finished_of_last hworkers last)
  have noLetBe := run.no_letBe
  have hbegun : es.filterMap Event.begun? = es.filterMap Event.asked? :=
    List.filterMap_congr fun e he => by cases e <;> grind [Event.begun?, Event.asked?]
  have hfinished : es.filterMap Event.finished? = es.filterMap Event.over? :=
    List.filterMap_congr fun e he => by cases e <;> grind [Event.finished?, Event.over?]
  have hended : es.filterMap (Event.ended? work) =
      (es.filterMap Event.over?).map fun t => (t.place, some (work t.file)) := by
    rw [List.map_filterMap]
    exact List.filterMap_congr fun e he => by cases e <;> grind [Event.ended?, Event.over?]
  refine ⟨by rwa [hbegun], by rwa [hfinished], ?_⟩
  exact handedIn.trans (hended ▸ ended.map _)

/-- Without a stop signal each slot holds the outcome of its own file in the end. -/
theorem slots_of_last_never {p : Pool} {checks : Nat} {log : Log} (hworkers : 0 < workers)
    (run : Steps workers .never work (start files checks log) p)
    (last : ∀ q, ¬ Step workers .never work p q) : p.slots = files.map fun f => some (work f) := by
  have slots := slots_of_last hworkers run last
  rw [eq_comm, ← List.forall₂_eq_eq_eq, List.forall₂_map_left_iff]
  refine slots.imp fun f o h => ?_
  rcases h with rfl | ⟨-, k, -, stopped⟩
  · rfl
  · cases stopped

end Pool

/-- The analysis of all files does not hang on the number of the workers or on the order of their
steps. Whatever a run has done so far, no slot was written twice. When nothing is left to do, each
file has been read once, its outcome is in its own slot, and the result is that of the files read
one after the other, as it is that of one worker. -/
theorem schedule_independent {d : Disk} (hd : d.IsProper) (path : Path) (c : Config) {e : Entry}
    (hroot : Discovery.Listable d (d.absolute path) e) (read : FileReader) (parse : SourceParser)
    (env : Environment) (kept : Settings.Kept) {asked : Option Int} {n : Int}
    (hcount : (Analysis.workerCount env kept asked).1 = .ok n) :
    ∃ found one, discover d (d.absolute path) c .never = .ok found ∧
      (analyzeReading d read parse env kept ⟨path, c, asked, .never⟩).1 = .ok one ∧
      (∀ a, Analyzes d read parse env kept ⟨path, c, some 1, .never⟩ a → a.result = one.result) ∧
      (∀ a, Analyzes d read parse env kept ⟨path, c, asked, .never⟩ a → a.result = one.result) ∧
      (∀ f ∈ found.files, analyzeFileRead read parse f = .ok (.ofFile read parse f)) ∧
      ∀ workers, 0 < workers →
        Pool.Halts workers .never (.ofFile read parse) (.ofDiscovery (d.absolute path) found) ∧
        (∀ p, Pool.Steps workers .never (.ofFile read parse)
            (.ofDiscovery (d.absolute path) found) p →
          ∃ es, Pool.Runs workers .never (.ofFile read parse)
            (.ofDiscovery (d.absolute path) found) es p) ∧
        ∀ es p, Pool.Runs workers .never (.ofFile read parse)
            (.ofDiscovery (d.absolute path) found) es p →
          Pool.WritesOnce found.files es p ∧
          ((∀ q, ¬ Pool.Step workers .never (.ofFile read parse) p q) →
            Pool.EachOnce (.ofFile read parse) found.files es ∧
            p.slots = found.files.map (fun f => some (.ofFile read parse f)) ∧
            (p.analysis (d.absolute path) found).result = one.result) := by
  have hfiles := analyzeFileRead_of_whole (c := c) hd hroot (hd.isAbsolute path) read parse
  obtain ⟨one, done, alike⟩ := analyzeReading_eq (r := ⟨path, c, asked, .never⟩) hcount
    (Discovery.discover_never hd hroot) hfiles
  have result : one.result = Analysis.resultOf (.ofFile read parse)
      (Discovery.whole d (d.absolute path) c e).files
      (Discovery.whole d (d.absolute path) c e).warnings false := by
    obtain ⟨a, ending⟩ := Analysis.exists_ending 1 .never (.ofFile read parse) (d.absolute path)
      (Discovery.whole d (d.absolute path) c e)
    rw [alike a ending, Analysis.of_ending_never Nat.one_pos ending]
  refine ⟨_, one, Discovery.discover_never hd hroot, done, fun a h => ?_, fun a h => ?_, hfiles,
    fun workers hworkers => ⟨Pool.halts _, fun p => Pool.steps_iff_runs.1, fun es p run => ?_⟩⟩
  · rw [result, result_of_never hd hroot rfl h]
  · rw [result, result_of_never hd hroot hcount h]
  · refine ⟨run.ledger.writesOnce, fun last => ?_⟩
    have steps := Pool.steps_iff_runs.2 ⟨es, run⟩
    have ending : Pool.Ending workers .never (.ofFile read parse) (d.absolute path)
        (Discovery.whole d (d.absolute path) c e) (p.analysis (d.absolute path) _) :=
      .complete rfl steps last
    exact ⟨run.eachOnce hworkers last, Pool.slots_of_last_never hworkers steps last,
      (Analysis.of_ending_never hworkers ending).trans result.symm⟩

theorem schedule_independent_sample : ∃ (found : Discovery.Outcome) (one : Analysis),
    discover Discovery.Sample.disk (Discovery.Sample.disk.absolute Discovery.Sample.root) .standard
      .never = .ok found ∧
    ∃ es p, Pool.Runs 2 .never (.ofFile Discovery.Sample.disk.reader fun _ _ => default)
        (.ofDiscovery (Discovery.Sample.disk.absolute Discovery.Sample.root) found) es p ∧
      Pool.EachOnce (.ofFile Discovery.Sample.disk.reader fun _ _ => default) found.files es ∧
      (p.analysis (Discovery.Sample.disk.absolute Discovery.Sample.root) found).result =
        one.result := by
  have count : (Analysis.workerCount [] none (some 2)).1 = .ok 2 := rfl
  obtain ⟨found, one, walked, -, -, -, -, runs⟩ := schedule_independent
    Discovery.Sample.disk_isProper Discovery.Sample.root .standard Discovery.Sample.disk_listable
    Discovery.Sample.disk.reader (fun _ _ => default) [] none count
  obtain ⟨-, told, complete⟩ := runs 2 Nat.two_pos
  obtain ⟨p, steps, last⟩ := Pool.exists_last
    (.ofDiscovery (Discovery.Sample.disk.absolute Discovery.Sample.root) found)
  obtain ⟨es, run⟩ := told p steps
  obtain ⟨-, all⟩ := complete es p run
  exact ⟨found, one, walked, es, p, run, (all last).1, (all last).2.2⟩

end ModuleAtlas
