import ModuleAtlas.Analysis

/-!
# Workers that share the files of a tree

Each file is a task. A number of workers take the tasks in order; a worker that has taken one asks
the signal and then reads the file or lets it be. Ends are handed in one at a time, each at the
place of its file. Which of the steps that are possible comes next is left open.

## Main definitions

* `Pool` — where each task is.
* `Pool.Step` — what a worker, or whoever collects the outcomes, does next.
* `Pool.Steps` — any number of steps.
* `Pool.Halts` — every run comes to an end, whatever its steps are.
* `Pool.analysis` — what comes of the outcomes that were handed in.
* `Analyzes` — an analysis that a number of workers may come to.
-/
namespace ModuleAtlas

/-- A file and its place among the files of a tree. -/
structure Task where
  place : Nat
  file : SourceFile
deriving DecidableEq, Inhabited

/-- The files of a tree as tasks. -/
def Task.ofFiles (files : List SourceFile) : List Task := files.zipIdx.map fun x => ⟨x.2, x.1⟩

/-- Where the tasks are while a tree is analyzed. -/
structure Pool where
  /-- No worker has taken these. -/
  queue : List Task
  /-- A worker has taken these and has not asked the signal. -/
  taken : List Task
  /-- A worker is reading these. -/
  reading : List Task
  /-- These have ended, by the places of their files; a file that was let be has no outcome. -/
  ended : List (Nat × Option FileOutcome)
  /-- The outcomes that were handed in. -/
  slots : List (Option FileOutcome)
  /-- How often the signal has been asked. -/
  checks : Nat
  log : Log

namespace Pool

/-- All tasks wait to be taken. -/
def start (files : List SourceFile) (checks : Nat) (log : Log) : Pool where
  queue := Task.ofFiles files
  taken := []
  reading := []
  ended := []
  slots := List.replicate files.length none
  checks := checks
  log := log

/-- The number of workers that are at a task. -/
def busy (p : Pool) : Nat := p.taken.length + p.reading.length

/-- Nothing is left to do. -/
def Finished (p : Pool) : Prop :=
  p.queue = [] ∧ p.taken = [] ∧ p.reading = [] ∧ p.ended = []

/-- One step of some number of workers that do some work on each file. -/
inductive Step (workers : Nat) (stop : StopSignal) (work : SourceFile → FileOutcome) :
    Pool → Pool → Prop where
  | take {p : Pool} {t : Task} {rest : List Task} (next : p.queue = t :: rest)
      (free : p.busy < workers) :
      Step workers stop work p { p with queue := rest, taken := p.taken ++ [t] }
  | letBe {p : Pool} {t : Task} {before after : List Task}
      (here : p.taken = before ++ t :: after) (stopped : stop p.checks = true) :
      Step workers stop work p
        { p with
          taken := before ++ after
          ended := p.ended ++ [(t.place, none)]
          checks := p.checks + 1 }
  | begin {p : Pool} {t : Task} {before after : List Task}
      (here : p.taken = before ++ t :: after) (goesOn : stop p.checks = false) :
      Step workers stop work p
        { p with
          taken := before ++ after
          reading := p.reading ++ [t]
          checks := p.checks + 1 }
  | finish {p : Pool} {t : Task} {before after : List Task}
      (here : p.reading = before ++ t :: after) :
      Step workers stop work p
        { p with
          reading := before ++ after
          ended := p.ended ++ [(t.place, some (work t.file))]
          log := p.log ++ (work t.file).log }
  | handIn {p : Pool} {place : Nat} {o : Option FileOutcome}
      {before after : List (Nat × Option FileOutcome)}
      (here : p.ended = before ++ (place, o) :: after) :
      Step workers stop work p
        { p with ended := before ++ after, slots := p.slots.set place o }

/-- Any number of steps, one after the other. -/
inductive Steps (workers : Nat) (stop : StopSignal) (work : SourceFile → FileOutcome) :
    Pool → Pool → Prop where
  | refl (p : Pool) : Steps workers stop work p p
  | more {p q r : Pool} (first : Step workers stop work p q) (rest : Steps workers stop work q r) :
      Steps workers stop work p r

/-- Whatever the workers do next, they come to an end. -/
def Halts (workers : Nat) (stop : StopSignal) (work : SourceFile → FileOutcome) : Pool → Prop :=
  Acc fun q p => Step workers stop work p q

/-- The analysis of the files that a walk has found, from the outcomes that were handed in. -/
def analysis (root : Path) (found : Discovery.Outcome) (p : Pool) : Analysis :=
  .assemble root found p.slots p.log

/-- The pool of the files that a walk has found. The signal has been asked once since the walk. -/
def ofDiscovery (root : Path) (found : Discovery.Outcome) : Pool :=
  start found.files (found.checks + 1) (Analysis.openingLog root found)

/-- An analysis that workers may come to from what a walk has found: the signal stops it before any
file is read, or the workers go on until there is nothing more that they could do. -/
inductive Ending (workers : Nat) (stop : StopSignal) (work : SourceFile → FileOutcome) (root : Path)
    (found : Discovery.Outcome) : Analysis → Prop where
  | cancelled (stopped : stop found.checks = true) :
      Ending workers stop work root found (.cancelled root found)
  | complete {p : Pool} (goesOn : stop found.checks = false)
      (run : Steps workers stop work (ofDiscovery root found) p)
      (last : ∀ q, ¬ Step workers stop work p q) :
      Ending workers stop work root found (p.analysis root found)

end Pool

/-- An analysis of a tree that the workers it is given may come to. Every file has an outcome. -/
def Analyzes (d : Disk) (read : FileReader) (parse : SourceParser) (e : Environment)
    (kept : Settings.Kept) (r : AnalysisRequest) (a : Analysis) : Prop :=
  ∃ workers found, (Analysis.workerCount e kept r.workers).1 = .ok workers ∧
    discover d (d.absolute r.root) r.config r.stop = .ok found ∧
    (∀ f ∈ found.files, ∃ o, analyzeFileRead read parse f = .ok o) ∧
    Pool.Ending workers.toNat r.stop (.ofFile read parse) (d.absolute r.root) found a

end ModuleAtlas
