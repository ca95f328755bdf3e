import ModuleAtlas.Proofs.Analysis.Accounting
import ModuleAtlas.Proofs.Analysis.Schedules
import Mathlib.Data.List.ProdSigma

/-!
# Warnings in the log

Each warning is logged where something goes wrong, and comes to the result later: those of the walk
at its end, those of a file out of its slot. On the way none is lost and none is added. Workers that
run side by side may log the warnings of files in another order than that of the result.

## Main definitions

* `Log.warningTexts` — the texts that are logged as warnings.
* `FileOutcome.Tells`, `Discovery.Progress.Tells` — the warnings are logged, and no others.
* `Analysis.Notice` — what is logged about files that are missing.
-/
namespace ModuleAtlas

open Text

/-! ## Logs -/

namespace Log

/-- The texts that are logged as warnings. -/
def warningTexts (log : Log) : List (List Glyph) :=
  (log.filter fun m => m.level = Level.warning).map Message.text

@[simp] theorem warningTexts_append (log log' : Log) :
    warningTexts (log ++ log') = log.warningTexts ++ log'.warningTexts := by
  rw [warningTexts, List.filter_append, List.map_append, ← warningTexts, ← warningTexts]

@[simp] theorem warningTexts_info (sender : String) (text : List Glyph) :
    warningTexts [.info sender text] = [] := rfl

@[simp] theorem warningTexts_warning (sender : String) (text : List Glyph) :
    warningTexts [.warning sender text] = [text] := rfl

end Log

/-- The message of a warning as it is logged. -/
def Warning.text (w : Warning) : List Glyph := w.message

/-! ## The walk -/

namespace Discovery

/-- A walk has logged its warnings in order, and no others. They are all about directories. -/
structure Progress.Tells (p : Progress) : Prop where
  logged : p.log.warningTexts = p.warnings.map Warning.text
  kind : ∀ w ∈ p.warnings, w.kind = .subtreeRead

theorem Progress.tells_start : Progress.start.Tells where
  logged := rfl
  kind := nofun

theorem Progress.Tells.warn {p : Progress} (h : p.Tells) (root : Path) (place : List Name)
    (t : Trouble) : (p.warn root place t).Tells where
  logged := by
    simp only [Progress.warn, Log.warningTexts_append, Log.warningTexts_warning, h.logged,
      List.map_append, List.map_cons, List.map_nil]
    rfl
  kind w hw := by
    rcases List.mem_append.1 hw with hw | hw
    · exact h.kind w hw
    · obtain rfl := List.mem_singleton.1 hw
      rfl

theorem Progress.Tells.run {p : Progress} (h : p.Tells) (d : Disk) (root : Path)
    (stop : StopSignal) (xs : List Visit) : (Discovery.run d root stop xs p).Tells := by
  fun_induction Discovery.run d root stop xs p with
  | case1 p => exact h
  | case2 place t rest p atRoot => exact ⟨h.logged, h.kind⟩
  | case3 place t rest p below ih => exact ih (h.warn root place t)
  | case4 place files rest p stopped =>
    refine ⟨?_, h.kind⟩
    simp only [Log.warningTexts_append, Log.warningTexts_info, List.append_nil]
    exact h.logged
  | case5 place files rest p goesOn ih => exact ih ⟨h.logged, h.kind⟩

end Discovery

/-- A walk that comes to an end has logged its warnings in order. -/
theorem warningTexts_discover {d : Disk} {root : Path} {c : Config} {stop : StopSignal}
    {found : Discovery.Outcome} (h : discover d root c stop = .ok found) :
    found.log.warningTexts = found.warnings.map Warning.text ∧
      ∀ w ∈ found.warnings, w.kind = .subtreeRead := by
  rw [discover] at h
  split at h
  · cases h
  · next e _ =>
    have tells := Discovery.Progress.tells_start.run d root stop
      (Discovery.visits (Discovery.view d root c) 1 [] e)
    dsimp only at h
    split at h
    · cases h
    · cases h
      exact ⟨tells.logged, tells.kind⟩

/-! ## Files -/

namespace FileOutcome

/-- A file logs its warning once, if it has one, and nothing else. -/
def Tells (o : FileOutcome) : Prop :=
  o.log.warningTexts = (o.warning.map Warning.text).toList

theorem tells_ofFile (read : FileReader) (parse : SourceParser) (f : SourceFile) :
    (ofFile read parse f).Tells := by
  rw [ofFile]
  cases textOf read f.fullPath with
  | error reason => rfl
  | ok text =>
    simp only [ofText]
    cases (parse f.path text).check f.path <;> rfl

theorem kind_ofFile {read : FileReader} {parse : SourceParser} {f : SourceFile} {w : Warning}
    (h : (ofFile read parse f).warning = some w) : w.kind ≠ .subtreeRead := by
  have accounts := accounts_ofFile read parse f
  rw [h] at accounts
  generalize (ofFile read parse f).record = r at accounts
  cases accounts <;> nofun

/-- Files that each tell their warning tell all warnings in order. -/
theorem warningTexts_flatMap {os : List FileOutcome} (h : ∀ o ∈ os, o.Tells) :
    Log.warningTexts (os.flatMap log) = (os.filterMap warning).map Warning.text := by
  induction os with
  | nil => rfl
  | cons o os ih =>
    obtain ⟨first, rest⟩ := List.forall_mem_cons.1 h
    rw [List.flatMap_cons, Log.warningTexts_append, ih rest, first, List.filterMap_cons]
    cases o.warning <;> rfl

end FileOutcome

/-! ## Any number of workers -/

namespace Pool

variable {workers : Nat} {stop : StopSignal} {work : SourceFile → FileOutcome}
  {files : List SourceFile}

/-- A run logs what comes of the files that it finishes, in the order in which it does. -/
theorem Runs.log_eq {p q : Pool} {es : List Event} (run : Runs workers stop work p es q) :
    q.log = p.log ++ (es.filterMap Event.finished?).flatMap fun t => (work t.file).log := by
  induction run with
  | refl p => exact (List.append_nil p.log).symm
  | more first _ ih =>
    rw [ih]
    cases first with
    | finish here => exact List.append_assoc _ _ _
    | _ => rfl

theorem length_filled (slots : List (Option FileOutcome))
    (handed : List (Nat × Option FileOutcome)) : (filled slots handed).length = slots.length := by
  induction handed generalizing slots with
  | nil => rfl
  | cons x handed ih => rw [filled, List.foldl_cons, ← filled, ih, List.length_set]

section Ledger

variable {past : List Event} {p : Pool}

theorem Ledger.length_slots (h : Ledger work files past p) : p.slots.length = files.length := by
  rw [h.slots, length_filled, List.length_replicate]

/-- When nothing is left to do, an outcome was handed in for each place. -/
theorem Ledger.perm_places (h : Ledger work files past p) (done : p.Finished) :
    ((past.filterMap Event.handedIn?).map Prod.fst).Perm (List.range files.length) := by
  obtain ⟨-, ended, handedIn⟩ := h.of_finished done
  refine (handedIn.map Prod.fst).trans ?_
  rw [Event.map_fst_ended, ← map_place_ofFiles]
  exact ended.map Task.place

/-- When nothing is left to do, the slots hold what was handed in, in the order of the files. -/
theorem Ledger.perm_slots (h : Ledger work files past p) (done : p.Finished) :
    ((past.filterMap Event.handedIn?).map Prod.snd).Perm p.slots := by
  have writes := h.writesOnce
  have places := h.perm_places done
  have numbered : ((p.slots.zipIdx.map Prod.swap).map Prod.fst).Nodup := by
    rw [List.map_map]
    change (p.slots.zipIdx.map Prod.snd).Nodup
    rw [List.zipIdx_map_snd]
    exact List.nodup_range'
  have pairs : (past.filterMap Event.handedIn?).Perm (p.slots.zipIdx.map Prod.swap) := by
    refine (List.perm_ext_iff_of_nodup (.of_map _ writes.once) (.of_map _ numbered)).2 ?_
    rintro ⟨i, o⟩
    rw [List.mem_map_swap, List.mk_mem_zipIdx_iff_getElem?]
    refine ⟨writes.kept (i, o), ?_⟩
    intro holds
    have inside : i < files.length := by
      rw [← h.length_slots]
      exact (List.getElem?_eq_some_iff.1 holds).1
    obtain ⟨⟨j, o'⟩, handed, rfl⟩ := List.mem_map.1 (places.mem_iff.2 (List.mem_range.2 inside))
    cases holds.symm.trans (writes.kept _ handed)
    exact handed
  have slots := pairs.map Prod.snd
  rw [List.map_map] at slots
  exact slots.trans (.of_eq (List.zipIdx_map_fst 0 p.slots))

end Ledger

/-- When nothing is left to do, what came of the files that were finished is in the slots. -/
theorem Runs.perm_outcomes {p : Pool} {es : List Event} {checks : Nat} {log : Log}
    (run : Runs workers stop work (start files checks log) es p) (done : p.Finished) :
    ((es.filterMap Event.finished?).map fun t => work t.file).Perm p.slots.reduceOption := by
  obtain ⟨-, -, handedIn⟩ := run.ledger.of_finished done
  have read : (es.filterMap (Event.ended? work)).filterMap Prod.snd =
      (es.filterMap Event.finished?).map fun t => work t.file := by
    rw [List.filterMap_filterMap, List.map_filterMap]
    congr 1
    funext e
    cases e <;> rfl
  have slots := ((handedIn.symm.map Prod.snd).trans (run.ledger.perm_slots done)).filterMap id
  rw [List.filterMap_map] at slots
  rw [← read]
  exact slots

/-- When nothing is left to do, the log is that of outcomes of files, which are in the slots. -/
theorem exists_finished {p : Pool} {checks : Nat} {log : Log} (hworkers : 0 < workers)
    (run : Steps workers stop work (start files checks log) p)
    (last : ∀ q, ¬ Step workers stop work p q) :
    ∃ os : List FileOutcome, p.log = log ++ os.flatMap FileOutcome.log ∧
      os.Perm p.slots.reduceOption ∧ ∀ o ∈ os, ∃ f, o = work f := by
  obtain ⟨es, told⟩ := steps_iff_runs.1 run
  refine ⟨(es.filterMap Event.finished?).map fun t => work t.file, ?_,
    told.perm_outcomes (finished_of_last hworkers last), ?_⟩
  · rw [told.log_eq, List.flatMap_map]
    rfl
  · intro o ho
    obtain ⟨t, -, rfl⟩ := List.mem_map.1 ho
    exact ⟨t.file, rfl⟩

/-! ## One worker -/

/-- One worker has logged in order what comes of the files that the signal was asked for, but for
the one that it is reading, which comes next. -/
def LogsInTurn (stop : StopSignal) (work : SourceFile → FileOutcome) (base : Nat)
    (files : List SourceFile) (log : Log) (p : Pool) : Prop :=
  p.log ++ (p.reading.flatMap fun t => (work t.file).log) =
    log ++ Analysis.readingLog ((inTurn stop work base files).take (p.checks - base))

theorem readingLog_take_succ {slots : List (Option FileOutcome)} {n : Nat}
    {o : Option FileOutcome} (h : slots[n]? = some o) : Analysis.readingLog (slots.take (n + 1)) =
      Analysis.readingLog (slots.take n) ++ (o.map FileOutcome.log).getD [] := by
  rw [List.take_add_one, h, Analysis.readingLog, List.reduceOption_append, List.flatMap_append]
  cases o <;> simp [Analysis.readingLog, List.reduceOption]

variable {base : Nat} {log : Log}

/-- The signal is asked in the turn of a file. -/
theorem OneByOne.readingLog_asked {p : Pool} (h : OneByOne base files p) {t : Task}
    {before after : List Task} (here : p.taken = before ++ t :: after) :
    Analysis.readingLog ((inTurn stop work base files).take (p.checks + 1 - base)) =
      Analysis.readingLog ((inTurn stop work base files).take (p.checks - base)) ++
        if stop p.checks then [] else (work t.file).log := by
  obtain ⟨-, -, -, turn, -⟩ := h.taken here
  have file : files[t.place]? = some t.file := by
    have mem : t ∈ (Task.ofFiles files).drop (p.checks - base) := by
      rw [← h.order, here]
      simp
    exact mem_ofFiles.1 (List.mem_of_mem_drop mem)
  have place : p.checks - base = t.place := by omega
  have next : p.checks + 1 - base = t.place + 1 := by omega
  have answer : AnswersInTurn stop work base files t.place
      (if stop (base + t.place) then none else some (work t.file)) :=
    (answersInTurn_iff file).2 rfl
  rw [place, next, readingLog_take_succ answer, ← turn]
  cases stop p.checks <;> rfl

theorem OneByOne.logsInTurn {p q : Pool} (h : OneByOne base files p)
    (logs : LogsInTurn stop work base files log p) (step : Step 1 stop work p q) :
    LogsInTurn stop work base files log q := by
  unfold LogsInTurn at logs ⊢
  cases step with
  | take next free => exact logs
  | letBe here stopped =>
    rw [h.readingLog_asked here, if_pos stopped, List.append_nil]
    exact logs
  | @begin t before after here goesOn =>
    obtain ⟨-, -, idle, -, -⟩ := h.taken here
    rw [h.readingLog_asked here, goesOn, if_neg Bool.false_ne_true, ← List.append_assoc, ← logs]
    simp [idle]
  | @finish t before after here =>
    have single := h.single
    simp only [busy, here, List.length_append, List.length_cons] at single
    obtain rfl : before = [] := List.eq_nil_of_length_eq_zero (by omega)
    obtain rfl : after = [] := List.eq_nil_of_length_eq_zero (by omega)
    rw [← logs, here]
    simp
  | handIn here => exact logs

theorem Steps.logsInTurn {p q : Pool} (run : Steps 1 stop work p q) (h : OneByOne base files p)
    (logs : LogsInTurn stop work base files log p) :
    LogsInTurn stop work base files log q ∧ OneByOne base files q := by
  induction run with
  | refl p => exact ⟨logs, h⟩
  | more first rest ih => exact ih (h.step first) (h.logsInTurn logs first)

/-- One worker logs what comes of the files in their order. -/
theorem log_of_one {p : Pool} (run : Steps 1 stop work (start files base log) p)
    (last : ∀ q, ¬ Step 1 stop work p q) : p.log = log ++ Analysis.readingLog p.slots := by
  obtain ⟨queue, taken, reading, -⟩ := finished_of_last Nat.one_pos last
  have begins : LogsInTurn stop work base files log (start files base log) := by
    simp [LogsInTurn, start, Analysis.readingLog]
  obtain ⟨logs, order⟩ := run.logsInTurn (oneByOne_start files base log) begins
  have all : files.length ≤ p.checks - base := by
    have none := order.order
    rw [taken, queue, List.append_nil, eq_comm, List.drop_eq_nil_iff] at none
    simpa [Task.ofFiles] using none
  have whole : (inTurn stop work base files).length ≤ p.checks - base := by
    rw [inTurn, List.length_mapIdx]
    exact all
  rw [LogsInTurn, reading, List.flatMap_nil, List.append_nil, List.take_of_length_le whole] at logs
  rw [logs, slots_of_one run last]

end Pool

/-! ## Whole analyses -/

namespace Analysis

variable {read : FileReader} {parse : SourceParser} {stop : StopSignal} {root : Path}
  {found : Discovery.Outcome} {workers : Nat}

/-- What is logged behind the warnings of a result: one message if files are missing, and nothing
otherwise. -/
inductive Notice (stop : StopSignal) (root : Path) (found : Discovery.Outcome)
    (r : AnalysisResult) : List (List Glyph) → Prop where
  | none (goesOn : stop found.checks = false) (whole : r.truncated = false) :
      Notice stop root found r []
  | cancelled (stopped : stop found.checks = true) (truncated : r.truncated = true) :
      Notice stop root found r ["Analysis of " ++ root ++ " cancelled during discovery"]
  | cut (goesOn : stop found.checks = false) (truncated : r.truncated = true)
      (missing : r.files.length < found.files.length) :
      Notice stop root found r
        ["Analysis of " ++ root ++
          s!" truncated after {r.files.length} of {found.files.length} files"]

@[simp] theorem warningTexts_openingLog (root : Path) (found : Discovery.Outcome) :
    (openingLog root found).warningTexts = found.log.warningTexts := by
  rw [openingLog, Log.warningTexts_append, Log.warningTexts_info, List.append_nil]

/-- Behind what has been logged so far, only missing files are told as a warning. -/
theorem exists_notice_assemble (goesOn : stop found.checks = false) (root : Path)
    (slots : List (Option FileOutcome)) (logged : Log) :
    ∃ notice, Notice stop root found (assemble root found slots logged).result notice ∧
      (assemble root found slots logged).log.warningTexts =
        logged.warningTexts ++ notice := by
  by_cases missing : (slots.reduceOption.map FileOutcome.record).length < found.files.length
  · have truncated : (assemble root found slots logged).result.truncated = true :=
      decide_eq_true missing
    refine ⟨_, .cut goesOn truncated missing, ?_⟩
    simp only [assemble, missing, decide_true, if_true, Log.warningTexts_append,
      Log.warningTexts_warning, Log.warningTexts_info, List.append_nil]
    rfl
  · have whole : (assemble root found slots logged).result.truncated = false :=
      decide_eq_false missing
    refine ⟨[], .none goesOn whole, ?_⟩
    simp only [assemble, missing, decide_false, Bool.false_eq_true, if_false,
      Log.warningTexts_append, Log.warningTexts_info, List.append_nil]

theorem exists_notice_cancelled (stopped : stop found.checks = true) (root : Path) :
    ∃ notice, Notice stop root found (cancelled root found).result notice ∧
      (cancelled root found).log.warningTexts = found.log.warningTexts ++ notice := by
  refine ⟨_, .cancelled stopped rfl, ?_⟩
  rw [cancelled, Log.warningTexts_append, Log.warningTexts_warning, warningTexts_openingLog]

/-- Outcomes of files. -/
def OfFiles (read : FileReader) (parse : SourceParser) (os : List FileOutcome) : Prop :=
  ∀ o ∈ os, ∃ f, o = .ofFile read parse f

theorem OfFiles.warningTexts {os : List FileOutcome} (h : OfFiles read parse os) :
    Log.warningTexts (os.flatMap FileOutcome.log) =
      (os.filterMap FileOutcome.warning).map Warning.text := by
  apply FileOutcome.warningTexts_flatMap
  intro o ho
  obtain ⟨f, rfl⟩ := h o ho
  exact FileOutcome.tells_ofFile read parse f

theorem OfFiles.kind {os : List FileOutcome} (h : OfFiles read parse os) :
    ∀ w ∈ os.filterMap FileOutcome.warning, w.kind ≠ .subtreeRead := by
  intro w hw
  obtain ⟨o, ho, warning⟩ := List.mem_filterMap.1 hw
  obtain ⟨f, rfl⟩ := h o ho
  exact FileOutcome.kind_ofFile warning

/-- Whatever the steps of the workers, the warnings of the files are logged behind those of the
walk, and in the same order if there is one worker. -/
theorem tells_of_ending {a : Analysis} (hworkers : 0 < workers)
    (h : Pool.Ending workers stop (.ofFile read parse) root found a) :
    ∃ os logged notice, OfFiles read parse os ∧
      a.result.warnings = found.warnings ++ os.filterMap FileOutcome.warning ∧
      a.log.warningTexts = found.log.warningTexts ++ logged ++ notice ∧
      logged.Perm ((os.filterMap FileOutcome.warning).map Warning.text) ∧
      (workers = 1 → logged = (os.filterMap FileOutcome.warning).map Warning.text) ∧
      Notice stop root found a.result notice := by
  cases h with
  | cancelled stopped =>
    obtain ⟨notice, noted, log⟩ := exists_notice_cancelled stopped root
    refine ⟨[], [], notice, nofun, (List.append_nil _).symm, ?_, .nil, fun _ => rfl, noted⟩
    rw [log, List.append_nil]
  | @complete p goesOn run last =>
    obtain ⟨os, logged, outcomes, ofFiles⟩ := Pool.exists_finished hworkers run last
    replace ofFiles : OfFiles read parse os := ofFiles
    have ofSlots : OfFiles read parse p.slots.reduceOption :=
      fun o ho => ofFiles o (outcomes.mem_iff.2 ho)
    obtain ⟨notice, noted, log⟩ := exists_notice_assemble goesOn root p.slots p.log
    refine ⟨p.slots.reduceOption, _, notice, ofSlots, rfl, ?_,
      (outcomes.filterMap FileOutcome.warning).map Warning.text, ?_, noted⟩
    · rw [Pool.analysis, log, logged, Log.warningTexts_append, ofFiles.warningTexts,
        warningTexts_openingLog]
    · rintro rfl
      have inTurn : p.log = openingLog root found ++ readingLog p.slots := Pool.log_of_one run last
      rw [← ofFiles.warningTexts, List.append_cancel_left (logged.symm.trans inTurn)]
      exact ofSlots.warningTexts

theorem ofFiles_outcomes {checks : Nat} {files : List SourceFile}
    {slots : List (Option FileOutcome)} (h : outcomes read parse stop checks files = .ok slots) :
    OfFiles read parse slots.reduceOption := by
  induction files generalizing checks slots with
  | nil =>
    cases h
    nofun
  | cons f files ih =>
    rw [outcomes] at h
    cases rest : outcomes read parse stop (checks + 1) files with
    | error e =>
      rw [rest] at h
      split at h
      · cases h
      · split at h <;> cases h
    | ok slots' =>
      rw [rest] at h
      split at h
      · cases h
        rw [List.reduceOption_cons_of_none]
        exact ih rest
      · split at h
        · cases h
        · next o done =>
          cases h
          rw [List.reduceOption_cons_of_some]
          exact List.forall_mem_cons.2 ⟨⟨f, (analyzeFileRead_eq_ok.1 done).2.2⟩, ih rest⟩

/-- Files that are read one after the other log their warnings in the order of the result. -/
theorem tells_of_ofDiscovery {a : Analysis}
    (told : found.log.warningTexts = found.warnings.map Warning.text)
    (h : ofDiscovery read parse root stop found = .ok a) :
    ∃ notice, Notice stop root found a.result notice ∧
      a.log.warningTexts = a.result.warnings.map Warning.text ++ notice := by
  rw [ofDiscovery] at h
  split at h
  · next stopped =>
    cases h
    obtain ⟨notice, noted, log⟩ := exists_notice_cancelled stopped root
    refine ⟨notice, noted, ?_⟩
    rw [log, told]
    rfl
  · next goesOn =>
    cases read : outcomes read parse stop (found.checks + 1) found.files with
    | error e =>
      rw [read] at h
      cases h
    | ok slots =>
      rw [read] at h
      cases h
      obtain ⟨notice, noted, log⟩ := exists_notice_assemble (Bool.eq_false_iff.2 goesOn) root slots
        (openingLog root found ++ readingLog slots)
      refine ⟨notice, noted, ?_⟩
      have texts : (readingLog slots).warningTexts =
          (slots.reduceOption.filterMap FileOutcome.warning).map Warning.text :=
        (ofFiles_outcomes read).warningTexts
      rw [log, Log.warningTexts_append, warningTexts_openingLog, told, texts, ← List.map_append]
      rfl

end Analysis

/-- The warnings that are logged are those of the result, each of them once. First come those of the
walk in order, then those of the files, and last a notice if files are missing. With one worker, or
without any, the files are told in the order of the result; with more workers it may be another
order, whatever the steps of the workers are. -/
theorem warnings_logged (d : Disk) (path : Path) (c : Config) (asked : Option Int)
    (stop : StopSignal) (read : FileReader) (parse : SourceParser) (env : Environment)
    (kept : Settings.Kept) :
    (∀ a, Analyzes d read parse env kept ⟨path, c, asked, stop⟩ a →
      ∃ found fileLevel logged notice, discover d (d.absolute path) c stop = .ok found ∧
        a.result.warnings = found.warnings ++ fileLevel ∧
        (∀ w ∈ found.warnings, w.kind = .subtreeRead) ∧
        (∀ w ∈ fileLevel, w.kind ≠ .subtreeRead) ∧
        a.log.warningTexts = found.warnings.map Warning.text ++ logged ++ notice ∧
        logged.Perm (fileLevel.map Warning.text) ∧
        Analysis.Notice stop (d.absolute path) found a.result notice ∧
        ((Analysis.workerCount env kept asked).1 = .ok 1 →
          a.log.warningTexts = a.result.warnings.map Warning.text ++ notice)) ∧
    (∀ a, (analyzeReading d read parse env kept ⟨path, c, asked, stop⟩).1 = .ok a →
      ∃ found notice, discover d (d.absolute path) c stop = .ok found ∧
        Analysis.Notice stop (d.absolute path) found a.result notice ∧
        a.log.warningTexts = a.result.warnings.map Warning.text ++ notice) := by
  constructor
  · intro a h
    obtain ⟨workers, found, count, walked, -, ending⟩ := h
    obtain ⟨told, kind⟩ := warningTexts_discover walked
    have hworkers : 0 < workers.toNat := by
      have := workerCount_pos count
      omega
    obtain ⟨os, logged, notice, ofFiles, warnings, log, order, inTurn, noted⟩ :=
      Analysis.tells_of_ending hworkers ending
    rw [told] at log
    refine ⟨found, _, logged, notice, walked, warnings, kind, ofFiles.kind, log, order, noted, ?_⟩
    intro single
    cases count.symm.trans single
    rw [log, inTurn rfl, warnings, List.map_append]
  · intro a h
    rw [analyzeReading] at h
    dsimp only at h
    split at h
    · cases h
    · split at h
      · cases h
      · next found walked =>
        cases ending : Analysis.ofDiscovery read parse (d.absolute path) stop found with
        | error e =>
          rw [ending] at h
          cases h
        | ok a' =>
          rw [ending] at h
          cases h
          obtain ⟨notice, noted, log⟩ :=
            Analysis.tells_of_ofDiscovery (warningTexts_discover walked).1 ending
          exact ⟨found, notice, walked, noted, log⟩

theorem warnings_logged_sample :
    (∃ a, Analyzes Discovery.Sample.disk (fun _ => .error "gone") (fun _ _ => default) [] none
        ⟨Discovery.Sample.root, .standard, some 2, .never⟩ a ∧
      a.log.warningTexts.Perm (a.result.warnings.map Warning.text)) ∧
    ∃ a, (analyzeReading Discovery.Sample.disk (fun _ => .error "gone") (fun _ _ => default) [] none
        ⟨Discovery.Sample.root, .standard, some 1, .never⟩).1 = .ok a ∧
      ∃ notice, a.log.warningTexts = a.result.warnings.map Warning.text ++ notice := by
  have hd := Discovery.Sample.disk_isProper
  have hroot := Discovery.Sample.disk_listable
  have told (asked : Option Int) := warnings_logged Discovery.Sample.disk Discovery.Sample.root
    .standard asked .never (fun _ => .error "gone") (fun _ _ => default) [] none
  have two : (Analysis.workerCount [] none (some 2)).1 = .ok 2 := rfl
  have one : (Analysis.workerCount [] none (some 1)).1 = .ok 1 := rfl
  refine ⟨?_, ?_⟩
  · obtain ⟨a, run⟩ := exists_analyzes_never hd .standard hroot (fun _ => .error "gone")
      (fun _ _ => default) two
    obtain ⟨found, fileLevel, logged, notice, -, warnings, -, -, log, order, noted, -⟩ :=
      (told (some 2)).1 a run
    have whole : a.result.truncated = false := by
      rw [result_of_never hd hroot two run]
      rfl
    have silent : notice = [] := by
      cases noted with
      | none _ _ => rfl
      | cancelled stopped _ => cases stopped
      | cut _ truncated _ => cases whole.symm.trans truncated
    refine ⟨a, run, ?_⟩
    rw [log, silent, List.append_nil, warnings, List.map_append]
    exact order.append_left _
  · obtain ⟨a, done, -⟩ := analyzeReading_eq
      (r := ⟨Discovery.Sample.root, .standard, some 1, .never⟩) one
      (Discovery.discover_never hd hroot) (analyzeFileRead_of_whole hd hroot (hd.isAbsolute _)
        (fun _ => .error "gone") (fun _ _ => default))
    obtain ⟨found, notice, -, -, log⟩ := (told (some 1)).2 a done
    exact ⟨a, done, notice, log⟩

end ModuleAtlas
