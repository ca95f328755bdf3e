import ModuleAtlas.Proofs.Analysis.Workers
import Mathlib.Data.List.Perm.Basic

/-!
# What a run has done

A run is told by its events: which task is taken, let be, begun and finished, and which outcome is
handed in. Whatever their order is, what was put into a part of the pool has left it or is still
there. So no task ends twice and no slot is written twice.

## Main definitions

* `Pool.Event`, `Pool.Does` — a step, and what it does.
* `Pool.Runs` — any number of steps, told by their events.
* `Pool.Ledger` — what the events of a run have put into the pool, and where it is now.
* `Pool.WritesOnce` — each slot holds what was handed in for its file, or nothing as yet.
-/
namespace ModuleAtlas

namespace Pool

variable {workers : Nat} {stop : StopSignal} {work : SourceFile → FileOutcome}
  {files : List SourceFile}

/-! ## Events -/

/-- What a step does. -/
inductive Event
  | take (t : Task)
  | letBe (t : Task)
  | begin (t : Task)
  | finish (t : Task)
  | handIn (place : Nat) (o : Option FileOutcome)

/-- A step that does what an event says. -/
inductive Does (workers : Nat) (stop : StopSignal) (work : SourceFile → FileOutcome) :
    Event → Pool → Pool → Prop where
  | take {p : Pool} {t : Task} {rest : List Task} (next : p.queue = t :: rest)
      (free : p.busy < workers) :
      Does workers stop work (.take t) p { p with queue := rest, taken := p.taken ++ [t] }
  | letBe {p : Pool} {t : Task} {before after : List Task}
      (here : p.taken = before ++ t :: after) (stopped : stop p.checks = true) :
      Does workers stop work (.letBe t) p
        { p with
          taken := before ++ after
          ended := p.ended ++ [(t.place, none)]
          checks := p.checks + 1 }
  | begin {p : Pool} {t : Task} {before after : List Task}
      (here : p.taken = before ++ t :: after) (goesOn : stop p.checks = false) :
      Does workers stop work (.begin t) p
        { p with
          taken := before ++ after
          reading := p.reading ++ [t]
          checks := p.checks + 1 }
  | finish {p : Pool} {t : Task} {before after : List Task}
      (here : p.reading = before ++ t :: after) :
      Does workers stop work (.finish t) p
        { p with
          reading := before ++ after
          ended := p.ended ++ [(t.place, some (work t.file))]
          log := p.log ++ (work t.file).log }
  | handIn {p : Pool} {place : Nat} {o : Option FileOutcome}
      {before after : List (Nat × Option FileOutcome)}
      (here : p.ended = before ++ (place, o) :: after) :
      Does workers stop work (.handIn place o) p
        { p with ended := before ++ after, slots := p.slots.set place o }

/-- Any number of steps, told by their events. -/
inductive Runs (workers : Nat) (stop : StopSignal) (work : SourceFile → FileOutcome) :
    Pool → List Event → Pool → Prop where
  | refl (p : Pool) : Runs workers stop work p [] p
  | more {p q r : Pool} {e : Event} {es : List Event} (first : Does workers stop work e p q)
      (rest : Runs workers stop work q es r) : Runs workers stop work p (e :: es) r

theorem step_iff_does {p q : Pool} :
    Step workers stop work p q ↔ ∃ e, Does workers stop work e p q := by
  constructor
  · intro step
    cases step with
    | take next free => exact ⟨_, .take next free⟩
    | letBe here stopped => exact ⟨_, .letBe here stopped⟩
    | begin here goesOn => exact ⟨_, .begin here goesOn⟩
    | finish here => exact ⟨_, .finish here⟩
    | handIn here => exact ⟨_, .handIn here⟩
  · rintro ⟨e, does⟩
    cases does with
    | take next free => exact .take next free
    | letBe here stopped => exact .letBe here stopped
    | begin here goesOn => exact .begin here goesOn
    | finish here => exact .finish here
    | handIn here => exact .handIn here

/-- Every run is told by some events. -/
theorem steps_iff_runs {p q : Pool} :
    Steps workers stop work p q ↔ ∃ es, Runs workers stop work p es q := by
  constructor
  · intro run
    induction run with
    | refl p => exact ⟨[], .refl p⟩
    | more first _ ih =>
      obtain ⟨e, does⟩ := step_iff_does.1 first
      obtain ⟨es, rest⟩ := ih
      exact ⟨e :: es, .more does rest⟩
  · rintro ⟨es, run⟩
    induction run with
    | refl p => exact .refl p
    | more first _ ih => exact .more (step_iff_does.2 ⟨_, first⟩) ih

/-! ## What events have done -/

namespace Event

@[simp] def taken? : Event → Option Task
  | take t => some t
  | _ => none

/-- The task that the signal was asked for. -/
@[simp] def asked? : Event → Option Task
  | letBe t => some t
  | begin t => some t
  | _ => none

@[simp] def begun? : Event → Option Task
  | begin t => some t
  | _ => none

@[simp] def finished? : Event → Option Task
  | finish t => some t
  | _ => none

/-- The task that has ended, read or not. -/
@[simp] def over? : Event → Option Task
  | letBe t => some t
  | finish t => some t
  | _ => none

/-- How a task has ended, by the place of its file. -/
@[simp] def ended? (work : SourceFile → FileOutcome) : Event → Option (Nat × Option FileOutcome)
  | letBe t => some (t.place, none)
  | finish t => some (t.place, some (work t.file))
  | _ => none

@[simp] def handedIn? : Event → Option (Nat × Option FileOutcome)
  | handIn place o => some (place, o)
  | _ => none

theorem map_fst_ended (work : SourceFile → FileOutcome) (es : List Event) :
    (es.filterMap (ended? work)).map Prod.fst = (es.filterMap over?).map Task.place := by
  rw [List.map_filterMap, List.map_filterMap]
  congr 1
  funext e
  cases e <;> rfl

end Event

/-- The slots when outcomes have been handed in one after the other. -/
def filled (slots : List (Option FileOutcome)) (handed : List (Nat × Option FileOutcome)) :
    List (Option FileOutcome) :=
  handed.foldl (fun slots x => slots.set x.1 x.2) slots

/-- What past events have put into each part of the pool has left it by an event, or is still there.
-/
structure Ledger (work : SourceFile → FileOutcome) (files : List SourceFile) (past : List Event)
    (p : Pool) : Prop where
  queue : past.filterMap Event.taken? ++ p.queue = Task.ofFiles files
  taken : (past.filterMap Event.taken?).Perm (past.filterMap Event.asked? ++ p.taken)
  reading : (past.filterMap Event.asked?).Perm (past.filterMap Event.over? ++ p.reading)
  ended : (past.filterMap (Event.ended? work)).Perm (past.filterMap Event.handedIn? ++ p.ended)
  slots : p.slots = filled (List.replicate files.length none) (past.filterMap Event.handedIn?)

theorem ledger_start (work : SourceFile → FileOutcome) (files : List SourceFile) (checks : Nat)
    (log : Log) : Ledger work files [] (start files checks log) where
  queue := rfl
  taken := .nil
  reading := .nil
  ended := .nil
  slots := rfl

/-- An element in the middle of a list is one more at the end of what has left it. -/
theorem perm_append_middle {α : Type} (gone before after : List α) (x : α) :
    (gone ++ (before ++ x :: after)).Perm (gone ++ [x] ++ (before ++ after)) := by
  rw [List.append_assoc]
  exact List.perm_middle.append_left gone

/-- An element that comes and leaves at once is one more of what has left. -/
theorem perm_append_passing {α : Type} {come gone here : List α} (h : come.Perm (gone ++ here))
    (x : α) : (come ++ [x]).Perm (gone ++ [x] ++ here) := by
  refine (h.append_right [x]).trans ?_
  rw [List.append_assoc, List.append_assoc]
  exact List.perm_append_comm.append_left gone

theorem Ledger.does {past : List Event} {e : Event} {p q : Pool} (h : Ledger work files past p)
    (does : Does workers stop work e p q) : Ledger work files (past ++ [e]) q := by
  obtain ⟨queue, taken, reading, ended, slots⟩ := h
  cases does with
  | @take p t rest next free =>
    exact {
      queue := by simpa [List.filterMap_cons, next] using queue
      taken := by simpa [List.filterMap_cons] using taken.append_right [t]
      reading := by simpa [List.filterMap_cons] using reading
      ended := by simpa [List.filterMap_cons] using ended
      slots := by simpa [List.filterMap_cons] using slots }
  | @letBe p t before after here stopped =>
    rw [here] at taken
    exact {
      queue := by simpa [List.filterMap_cons] using queue
      taken := by
        simpa [List.filterMap_cons] using taken.trans (perm_append_middle _ before after t)
      reading := by simpa [List.filterMap_cons] using perm_append_passing reading t
      ended := by simpa [List.filterMap_cons] using ended.append_right [(t.place, none)]
      slots := by simpa [List.filterMap_cons] using slots }
  | @begin p t before after here goesOn =>
    rw [here] at taken
    exact {
      queue := by simpa [List.filterMap_cons] using queue
      taken := by
        simpa [List.filterMap_cons] using taken.trans (perm_append_middle _ before after t)
      reading := by simpa [List.filterMap_cons] using reading.append_right [t]
      ended := by simpa [List.filterMap_cons] using ended
      slots := by simpa [List.filterMap_cons] using slots }
  | @finish p t before after here =>
    rw [here] at reading
    exact {
      queue := by simpa [List.filterMap_cons] using queue
      taken := by simpa [List.filterMap_cons] using taken
      reading := by
        simpa [List.filterMap_cons] using reading.trans (perm_append_middle _ before after t)
      ended := by
        simpa [List.filterMap_cons] using ended.append_right [(t.place, some (work t.file))]
      slots := by simpa [List.filterMap_cons] using slots }
  | @handIn p place o before after here =>
    rw [here] at ended
    exact {
      queue := by simpa [List.filterMap_cons] using queue
      taken := by simpa [List.filterMap_cons] using taken
      reading := by simpa [List.filterMap_cons] using reading
      ended := by
        simpa [List.filterMap_cons] using ended.trans (perm_append_middle _ before after (place, o))
      slots := by simp [filled, slots] }

theorem Ledger.runs {past es : List Event} {p q : Pool} (h : Ledger work files past p)
    (run : Runs workers stop work p es q) : Ledger work files (past ++ es) q := by
  induction run generalizing past with
  | refl p => simpa using h
  | more first _ ih => simpa using ih (h.does first)

/-! ## Nothing is done twice -/

theorem map_place_ofFiles (files : List SourceFile) :
    (Task.ofFiles files).map Task.place = List.range files.length := by
  rw [Task.ofFiles, List.map_map, List.range_eq_range', ← List.zipIdx_map_snd 0 files]
  rfl

section Ledger

variable {past : List Event} {p : Pool}

/-- A task is over, or with a worker, or waits to be taken. -/
theorem Ledger.tasks (h : Ledger work files past p) :
    (past.filterMap Event.over? ++ (p.reading ++ (p.taken ++ p.queue))).Perm
      (Task.ofFiles files) := by
  rw [← h.queue, ← List.append_assoc, ← List.append_assoc]
  exact ((h.reading.symm.append_right p.taken).trans h.taken.symm).append_right p.queue

/-- The places that outcomes were handed in for are places of files, each of them once. -/
theorem Ledger.places (h : Ledger work files past p) :
    ∃ rest, ((past.filterMap Event.handedIn?).map Prod.fst ++ rest).Perm
      (List.range files.length) := by
  have ended : ((past.filterMap Event.over?).map Task.place).Perm
      ((past.filterMap Event.handedIn?).map Prod.fst ++ p.ended.map Prod.fst) := by
    rw [← Event.map_fst_ended work, ← List.map_append]
    exact h.ended.map Prod.fst
  have all := h.tasks.map Task.place
  rw [map_place_ofFiles, List.map_append] at all
  refine ⟨p.ended.map Prod.fst ++ (p.reading ++ (p.taken ++ p.queue)).map Task.place, ?_⟩
  rw [← List.append_assoc]
  exact (ended.symm.append_right _).trans all

theorem Ledger.nodup_handedIn (h : Ledger work files past p) :
    ((past.filterMap Event.handedIn?).map Prod.fst).Nodup := by
  obtain ⟨rest, places⟩ := h.places
  exact (List.nodup_append.1 (places.nodup_iff.2 List.nodup_range)).1

theorem filled_of_notMem {slots : List (Option FileOutcome)}
    {handed : List (Nat × Option FileOutcome)} {i : Nat} (h : i ∉ handed.map Prod.fst) :
    (filled slots handed)[i]? = slots[i]? := by
  induction handed generalizing slots with
  | nil => rfl
  | cons x handed ih =>
    rw [List.map_cons, List.mem_cons, not_or] at h
    rw [filled, List.foldl_cons, ← filled, ih h.2, List.getElem?_set_ne (Ne.symm h.1)]

theorem filled_of_mem {slots : List (Option FileOutcome)}
    {handed : List (Nat × Option FileOutcome)} (nodup : (handed.map Prod.fst).Nodup)
    {x : Nat × Option FileOutcome} (h : x ∈ handed) (inside : x.1 < slots.length) :
    (filled slots handed)[x.1]? = some x.2 := by
  induction handed generalizing slots with
  | nil => cases h
  | cons y handed ih =>
    obtain ⟨fresh, nodup⟩ := List.nodup_cons.1 nodup
    rw [filled, List.foldl_cons, ← filled]
    rcases List.mem_cons.1 h with rfl | h
    · rw [filled_of_notMem fresh, List.getElem?_set_self inside]
    · exact ih nodup h (by rwa [List.length_set])

end Ledger

/-- No slot is written twice: each holds what was handed in for its file, or nothing as yet. -/
structure WritesOnce (files : List SourceFile) (es : List Event) (p : Pool) : Prop where
  once : ((es.filterMap Event.handedIn?).map Prod.fst).Nodup
  kept : ∀ x ∈ es.filterMap Event.handedIn?, p.slots[x.1]? = some x.2
  empty : ∀ i < files.length, i ∉ (es.filterMap Event.handedIn?).map Prod.fst →
    p.slots[i]? = some none

theorem Ledger.writesOnce {past : List Event} {p : Pool} (h : Ledger work files past p) :
    WritesOnce files past p where
  once := h.nodup_handedIn
  kept x hx := by
    obtain ⟨rest, places⟩ := h.places
    have inside : x.1 ∈ List.range files.length :=
      places.subset (List.mem_append_left _ (List.mem_map_of_mem hx))
    rw [h.slots]
    exact filled_of_mem h.nodup_handedIn hx (by simpa using inside)
  empty i hi absent := by
    rw [h.slots, filled_of_notMem absent]
    simp [hi]

theorem Runs.ledger {p : Pool} {es : List Event} {checks : Nat} {log : Log}
    (run : Runs workers stop work (start files checks log) es p) : Ledger work files es p := by
  simpa using (ledger_start work files checks log).runs run

end Pool

end ModuleAtlas
