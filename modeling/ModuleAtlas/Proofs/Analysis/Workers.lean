import ModuleAtlas.Analysis.Pool
import Mathlib.Data.List.Forall2
import Mathlib.Tactic.ByContra

/-!
# What workers come to

A run of the workers ends, whatever its steps are, and when it ends all outcomes have been handed
in. Which outcome a file has may hang on the order of the steps; what does not is that it is an
answer for the place of the file.

## Main definitions

* `Pool.Collects` — all outcomes, handed in or not, are answers, and no file is lost.
* `Pool.OneByOne` — one worker asks the signal for the files in order.
-/
namespace ModuleAtlas

namespace Pool

variable {workers : Nat} {stop : StopSignal} {work : SourceFile → FileOutcome}

/-! ## The end of a run -/

/-- Each step brings a task nearer to being handed in. -/
def left (p : Pool) : Nat :=
  4 * p.queue.length + 3 * p.taken.length + 2 * p.reading.length + p.ended.length

theorem Step.left_lt {p q : Pool} (step : Step workers stop work p q) : q.left < p.left := by
  cases step with
  | take next free =>
    simp only [left, next, List.length_append, List.length_cons, List.length_nil]
    omega
  | letBe here stopped =>
    simp only [left, here, List.length_append, List.length_cons, List.length_nil]
    omega
  | begin here goesOn =>
    simp only [left, here, List.length_append, List.length_cons, List.length_nil]
    omega
  | finish here =>
    simp only [left, here, List.length_append, List.length_cons, List.length_nil]
    omega
  | handIn here =>
    simp only [left, here, List.length_append, List.length_cons]
    omega

theorem halts (p : Pool) : Halts workers stop work p :=
  Subrelation.accessible (fun step => Step.left_lt step)
    (InvImage.accessible left (Nat.lt_wfRel.wf.apply p.left))

/-- As long as something is left to do, there is a worker who can do it. -/
theorem exists_step {p : Pool} (hworkers : 0 < workers) (h : ¬ p.Finished) :
    ∃ q, Step workers stop work p q := by
  cases hended : p.ended with
  | cons x rest => exact ⟨_, .handIn (show p.ended = [] ++ (x.1, x.2) :: rest from hended)⟩
  | nil =>
    cases hreading : p.reading with
    | cons t rest => exact ⟨_, .finish (show p.reading = [] ++ t :: rest from hreading)⟩
    | nil =>
      cases htaken : p.taken with
      | cons t rest =>
        have here : p.taken = [] ++ t :: rest := htaken
        cases hstop : stop p.checks with
        | true => exact ⟨_, .letBe here hstop⟩
        | false => exact ⟨_, .begin here hstop⟩
      | nil =>
        cases hqueue : p.queue with
        | cons t rest =>
          have free : p.busy < workers := by simpa [busy, htaken, hreading] using hworkers
          exact ⟨_, .take hqueue free⟩
        | nil => exact absurd ⟨hqueue, htaken, hreading, hended⟩ h

theorem finished_of_last {p : Pool} (hworkers : 0 < workers)
    (last : ∀ q, ¬ Step workers stop work p q) : p.Finished := by
  by_contra h
  obtain ⟨q, step⟩ := exists_step hworkers h
  exact last q step

/-- A run that goes on as long as it can comes to an end. -/
theorem exists_last (p : Pool) :
    ∃ q, Steps workers stop work p q ∧ ∀ r, ¬ Step workers stop work q r := by
  have halts : Halts workers stop work p := halts p
  induction halts with
  | intro p _ ih =>
    by_cases h : ∃ q, Step workers stop work p q
    · obtain ⟨q, step⟩ := h
      obtain ⟨r, run, last⟩ := ih q step
      exact ⟨r, .more step run, last⟩
    · exact ⟨p, .refl p, fun q step => h ⟨q, step⟩⟩

/-! ## Outcomes that are answers -/

variable {answer : Nat → Option FileOutcome → Prop} {files : List SourceFile}

/-- The tasks that have not ended. -/
def pending (p : Pool) : List Task := p.queue ++ p.taken ++ p.reading

/-- A file has been neither handed in nor lost. -/
def Awaits (p : Pool) (place : Nat) : Prop :=
  place ∈ p.pending.map Task.place ∨ place ∈ p.ended.map Prod.fst

/-- All outcomes are answers for their places, and no file is lost. -/
structure Collects (answer : Nat → Option FileOutcome → Prop) (work : SourceFile → FileOutcome)
    (files : List SourceFile) (p : Pool) : Prop where
  length : p.slots.length = files.length
  tasks : ∀ t ∈ p.pending, files[t.place]? = some t.file
  reading : ∀ t ∈ p.reading, answer t.place (some (work t.file))
  ended : ∀ x ∈ p.ended, answer x.1 x.2
  slots : ∀ i < files.length, p.Awaits i ∨ ∃ o, p.slots[i]? = some o ∧ answer i o

/-- What a worker learns of the signal settles the answer for a task that it has taken. -/
def Asks (answer : Nat → Option FileOutcome → Prop) (stop : StopSignal)
    (work : SourceFile → FileOutcome) (p : Pool) : Prop :=
  ∀ t ∈ p.taken, (stop p.checks = true → answer t.place none) ∧
    (stop p.checks = false → answer t.place (some (work t.file)))

/-- No task comes up that has not been there before. -/
theorem Step.mem_pending {p q : Pool} (step : Step workers stop work p q) {t : Task}
    (h : t ∈ q.pending) : t ∈ p.pending := by
  cases step <;> simp only [pending] at * <;> grind

/-- A file is awaited until its outcome is handed in. -/
theorem Step.awaits {p q : Pool} (step : Step workers stop work p q) {place : Nat}
    (h : p.Awaits place) :
    q.Awaits place ∨ ∃ o, (place, o) ∈ p.ended ∧ q.slots = p.slots.set place o := by
  cases step <;> simp only [Awaits, pending] at * <;> grind

theorem Step.slots_eq {p q : Pool} (step : Step workers stop work p q) :
    q.slots = p.slots ∨ ∃ x ∈ p.ended, q.slots = p.slots.set x.1 x.2 := by
  cases step with
  | @handIn place o before after here =>
    exact .inr ⟨(place, o), by rw [here]; simp, rfl⟩
  | _ => exact .inl rfl

/-- Only what is an answer gets a worker to read a file, or ends a task. -/
theorem Collects.step_answers {p q : Pool} (h : Collects answer work files p)
    (asks : Asks answer stop work p) (step : Step workers stop work p q) :
    (∀ t ∈ q.reading, answer t.place (some (work t.file))) ∧ ∀ x ∈ q.ended, answer x.1 x.2 := by
  have reading := h.reading
  have ended := h.ended
  cases step with
  | take next free => exact ⟨reading, ended⟩
  | @letBe t before after here stopped =>
    have mem : t ∈ p.taken := by rw [here]; simp
    refine ⟨reading, fun x hx => ?_⟩
    rcases List.mem_append.1 hx with hx | hx
    · exact ended x hx
    · obtain rfl := List.mem_singleton.1 hx
      exact (asks t mem).1 stopped
  | @begin t before after here goesOn =>
    have mem : t ∈ p.taken := by rw [here]; simp
    refine ⟨fun t' ht => ?_, ended⟩
    rcases List.mem_append.1 ht with ht | ht
    · exact reading t' ht
    · obtain rfl := List.mem_singleton.1 ht
      exact (asks t' mem).2 goesOn
  | @finish t before after here =>
    have mem : t ∈ p.reading := by rw [here]; simp
    refine ⟨fun t' ht => reading t' ?_, fun x hx => ?_⟩
    · rw [here]
      exact List.mem_append.2 ((List.mem_append.1 ht).imp_right (List.mem_cons_of_mem _))
    · rcases List.mem_append.1 hx with hx | hx
      · exact ended x hx
      · obtain rfl := List.mem_singleton.1 hx
        exact reading t mem
  | @handIn place o before after here =>
    refine ⟨reading, fun x hx => ended x ?_⟩
    rw [here]
    exact List.mem_append.2 ((List.mem_append.1 hx).imp_right (List.mem_cons_of_mem _))

theorem Collects.step {p q : Pool} (h : Collects answer work files p)
    (asks : Asks answer stop work p) (step : Step workers stop work p q) :
    Collects answer work files q := by
  obtain ⟨reading, ended⟩ := h.step_answers asks step
  have length : q.slots.length = files.length := by
    rcases step.slots_eq with same | ⟨x, -, same⟩
    · rw [same, h.length]
    · rw [same, List.length_set, h.length]
  refine ⟨length, fun t ht => h.tasks t (step.mem_pending ht), reading, ended, fun i hi => ?_⟩
  have inside : i < p.slots.length := by rwa [h.length]
  rcases h.slots i hi with waits | ⟨o, slot, ho⟩
  · rcases step.awaits waits with waits | ⟨o, mem, same⟩
    · exact .inl waits
    · exact .inr ⟨o, by rw [same, List.getElem?_set_self inside], h.ended _ mem⟩
  · rcases step.slots_eq with same | ⟨x, mem, same⟩
    · exact .inr ⟨o, by rw [same, slot], ho⟩
    · by_cases here : x.1 = i
      · subst here
        exact .inr ⟨x.2, by rw [same, List.getElem?_set_self inside], h.ended x mem⟩
      · exact .inr ⟨o, by rw [same, List.getElem?_set_ne here, slot], ho⟩

theorem mem_ofFiles {t : Task} : t ∈ Task.ofFiles files ↔ files[t.place]? = some t.file := by
  rw [Task.ofFiles, List.mem_map]
  constructor
  · rintro ⟨⟨f, i⟩, h, rfl⟩
    exact List.mk_mem_zipIdx_iff_getElem?.1 h
  · intro h
    exact ⟨(t.file, t.place), List.mk_mem_zipIdx_iff_getElem?.2 h, rfl⟩

/-- Before the first step no outcome is there, and every file awaits one. -/
theorem collects_start (answer : Nat → Option FileOutcome → Prop)
    (work : SourceFile → FileOutcome) (files : List SourceFile) (checks : Nat) (log : Log) :
    Collects answer work files (start files checks log) where
  length := List.length_replicate
  tasks t ht := mem_ofFiles.1 (by simpa [pending, start] using ht)
  reading t ht := by simp [start] at ht
  ended x hx := by simp [start] at hx
  slots i hi := by
    have mem : (⟨i, files[i]⟩ : Task) ∈ Task.ofFiles files :=
      mem_ofFiles.2 (List.getElem?_eq_getElem hi)
    exact .inl (.inl (List.mem_map.2 ⟨_, by simpa [pending, start] using mem, rfl⟩))

/-- When nothing is left to do, each slot holds an answer. -/
theorem Collects.answers {p : Pool} (h : Collects answer work files p) (done : p.Finished)
    {i : Nat} (hi : i < files.length) : ∃ o, p.slots[i]? = some o ∧ answer i o := by
  obtain ⟨queue, taken, reading, ended⟩ := done
  refine (h.slots i hi).resolve_left ?_
  simp [Awaits, pending, queue, taken, reading, ended]

/-! ## Any number of workers -/

/-- A file has the outcome of its work, or none when the signal may have stopped it. -/
def Answers (stop : StopSignal) (work : SourceFile → FileOutcome) (base : Nat)
    (files : List SourceFile) (i : Nat) (o : Option FileOutcome) : Prop :=
  ∃ f, files[i]? = some f ∧ (o = some (work f) ∨ o = none ∧ ∃ k, base ≤ k ∧ stop k = true)

variable {base : Nat}

theorem Step.checks_le {p q : Pool} (step : Step workers stop work p q) : p.checks ≤ q.checks := by
  cases step <;> simp

theorem Collects.asks {p : Pool} (h : Collects (Answers stop work base files) work files p)
    (hbase : base ≤ p.checks) : Asks (Answers stop work base files) stop work p := by
  intro t ht
  have file : files[t.place]? = some t.file := h.tasks t (by simp [pending, ht])
  exact ⟨fun stopped => ⟨t.file, file, .inr ⟨rfl, p.checks, hbase, stopped⟩⟩,
    fun _ => ⟨t.file, file, .inl rfl⟩⟩

theorem Steps.collects {p q : Pool} (run : Steps workers stop work p q)
    (h : Collects (Answers stop work base files) work files p) (hbase : base ≤ p.checks) :
    Collects (Answers stop work base files) work files q := by
  induction run with
  | refl p => exact h
  | more first rest ih =>
    exact ih (h.step (h.asks hbase) first) (Nat.le_trans hbase first.checks_le)

/-- Whatever the steps of a run, each file has its own outcome at its own place, or none when the
signal has stopped a worker. -/
theorem slots_of_last {p : Pool} {log : Log} (hworkers : 0 < workers)
    (run : Steps workers stop work (start files base log) p)
    (last : ∀ q, ¬ Step workers stop work p q) :
    List.Forall₂ (fun f o => o = some (work f) ∨ o = none ∧ ∃ k, base ≤ k ∧ stop k = true)
      files p.slots := by
  have collects := run.collects (collects_start _ work files base log) (Nat.le_refl _)
  rw [List.forall₂_iff_get]
  refine ⟨collects.length.symm, fun i hi hi' => ?_⟩
  obtain ⟨o, slot, f, file, ho⟩ := collects.answers (finished_of_last hworkers last) hi
  rw [List.getElem?_eq_getElem hi] at file
  rw [List.getElem?_eq_getElem hi'] at slot
  cases file
  cases slot
  exact ho

/-! ## One worker -/

/-- The outcomes of files for which the signal is asked in order. -/
def inTurn (stop : StopSignal) (work : SourceFile → FileOutcome) (base : Nat)
    (files : List SourceFile) : List (Option FileOutcome) :=
  files.mapIdx fun i f => if stop (base + i) then none else some (work f)

theorem inTurn_cons (f : SourceFile) : inTurn stop work base (f :: files) =
    (if stop base then none else some (work f)) :: inTurn stop work (base + 1) files := by
  simp [inTurn, List.mapIdx_cons, Nat.add_assoc, Nat.add_comm 1]

/-- One worker takes the tasks in order, and the signal has been asked once for each of those that
are not waiting for it. -/
structure OneByOne (base : Nat) (files : List SourceFile) (p : Pool) : Prop where
  single : p.busy ≤ 1
  checks : base ≤ p.checks
  order : p.taken ++ p.queue = (Task.ofFiles files).drop (p.checks - base)

/-- The task that the one worker has taken is the one that the signal is asked for next. -/
theorem OneByOne.taken {p : Pool} (h : OneByOne base files p) {t : Task} {before after : List Task}
    (here : p.taken = before ++ t :: after) :
    before = [] ∧ after = [] ∧ p.reading = [] ∧ p.checks = base + t.place ∧
      p.queue = (Task.ofFiles files).drop (p.checks + 1 - base) := by
  have single := h.single
  simp only [busy, here, List.length_append, List.length_cons] at single
  obtain rfl : before = [] := List.eq_nil_of_length_eq_zero (by omega)
  obtain rfl : after = [] := List.eq_nil_of_length_eq_zero (by omega)
  have order := h.order
  have next : (Task.ofFiles files)[p.checks - base]? = some t := by
    rw [← List.head?_drop, ← order, here]
    rfl
  have place : p.checks - base = t.place := by
    simp only [Task.ofFiles, List.getElem?_map, List.getElem?_zipIdx] at next
    grind
  have checks := h.checks
  have rest : p.queue = (Task.ofFiles files).drop (p.checks + 1 - base) := by
    rw [Nat.sub_add_comm checks, ← List.tail_drop, ← order, here]
    rfl
  exact ⟨rfl, rfl, List.eq_nil_of_length_eq_zero (by omega), by omega, rest⟩

theorem OneByOne.step {p q : Pool} (h : OneByOne base files p) (step : Step 1 stop work p q) :
    OneByOne base files q := by
  have ⟨single, checks, order⟩ := h
  cases step with
  | @take t rest next free =>
    have idle : p.taken = [] ∧ p.reading = [] := by
      simpa [busy] using free
    refine ⟨by simp [busy, idle], checks, ?_⟩
    simpa [idle, next] using order
  | letBe here stopped =>
    obtain ⟨rfl, rfl, idle, -, rest⟩ := h.taken here
    exact ⟨by simp [busy, idle], Nat.le_succ_of_le checks, rest⟩
  | begin here goesOn =>
    obtain ⟨rfl, rfl, idle, -, rest⟩ := h.taken here
    exact ⟨by simp [busy, idle], Nat.le_succ_of_le checks, rest⟩
  | finish here =>
    refine ⟨?_, checks, order⟩
    simp only [busy, here, List.length_append, List.length_cons] at single ⊢
    omega
  | handIn here => exact ⟨single, checks, order⟩

theorem oneByOne_start (files : List SourceFile) (base : Nat) (log : Log) :
    OneByOne base files (start files base log) where
  single := Nat.zero_le 1
  checks := Nat.le_refl base
  order := by simp [start]

/-- With one worker, the answer for a file hangs on what the signal says in its turn. -/
def AnswersInTurn (stop : StopSignal) (work : SourceFile → FileOutcome) (base : Nat)
    (files : List SourceFile) (i : Nat) (o : Option FileOutcome) : Prop :=
  (inTurn stop work base files)[i]? = some o

theorem answersInTurn_iff {i : Nat} {f : SourceFile} (h : files[i]? = some f)
    {o : Option FileOutcome} : AnswersInTurn stop work base files i o ↔
      o = if stop (base + i) then none else some (work f) := by
  rw [AnswersInTurn, inTurn, List.getElem?_mapIdx, h, Option.map_some, Option.some_inj]
  exact eq_comm

theorem OneByOne.asks {p : Pool} (h : OneByOne base files p)
    (collects : Collects (AnswersInTurn stop work base files) work files p) :
    Asks (AnswersInTurn stop work base files) stop work p := by
  intro t ht
  obtain ⟨before, after, here⟩ := List.append_of_mem ht
  obtain ⟨-, -, -, asked, -⟩ := h.taken here
  have file : files[t.place]? = some t.file := collects.tasks t (by simp [pending, ht])
  rw [answersInTurn_iff file, answersInTurn_iff file, ← asked]
  exact ⟨fun stopped => by simp [stopped], fun goesOn => by simp [goesOn]⟩

theorem Steps.oneByOne {p q : Pool} (run : Steps 1 stop work p q) (h : OneByOne base files p)
    (collects : Collects (AnswersInTurn stop work base files) work files p) :
    Collects (AnswersInTurn stop work base files) work files q := by
  induction run with
  | refl p => exact collects
  | more first rest ih => exact ih (h.step first) (collects.step (h.asks collects) first)

/-- One worker comes to the outcomes of the files in order. -/
theorem slots_of_one {p : Pool} {log : Log} (run : Steps 1 stop work (start files base log) p)
    (last : ∀ q, ¬ Step 1 stop work p q) : p.slots = inTurn stop work base files := by
  have collects := run.oneByOne (oneByOne_start files base log)
    (collects_start _ work files base log)
  refine List.ext_getElem? fun i => ?_
  by_cases hi : i < files.length
  · obtain ⟨o, slot, answer⟩ := collects.answers (finished_of_last Nat.one_pos last) hi
    rw [slot, answer]
  · rw [List.getElem?_eq_none (by have := collects.length; omega),
      List.getElem?_eq_none (by simp [inTurn]; omega)]

/-! ## No worker but the caller -/

theorem outcomes_eq {read : FileReader} {parse : SourceParser}
    (h : ∀ f ∈ files, analyzeFileRead read parse f = .ok (.ofFile read parse f)) (base : Nat) :
    Analysis.outcomes read parse stop base files =
      .ok (inTurn stop (.ofFile read parse) base files) := by
  induction files generalizing base with
  | nil => rfl
  | cons f files ih =>
    have ⟨hf, hfiles⟩ := List.forall_mem_cons.1 h
    rw [Analysis.outcomes, ih hfiles, hf, inTurn_cons]
    cases stop base <;> rfl

end Pool

end ModuleAtlas
