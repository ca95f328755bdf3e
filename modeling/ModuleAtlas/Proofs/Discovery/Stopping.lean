import ModuleAtlas.Proofs.Discovery.Walk

/-!
# Walks that a signal stops

A walk carries out its visits in order and asks the signal once for each directory that it lists. It
comes to its end, or it is cut in front of a listed directory; what it has found by then is what the
visits in front of the cut find.
-/
namespace ModuleAtlas

open Text Discovery

/-! ## Single visits -/

namespace Visit

def isListed (x : Visit) : Bool :=
  match x.outcome with
  | .ok _ => true
  | .error _ => false

/-- The places of the source files that a visit finds. -/
def found (x : Visit) : List (List Name) :=
  match x.outcome with
  | .ok names => names.map fun n => x.place ++ [n]
  | .error _ => []

/-- The directory that could not be listed, with what was in the way. -/
def trouble? (x : Visit) : Option (List Name × Trouble) :=
  match x.outcome with
  | .ok _ => none
  | .error t => some (x.place, t)

/-- A file that a visit finds lies in the directory of the visit. -/
theorem dropLast_of_mem_found {x : Visit} {q : List Name} (h : q ∈ x.found) :
    x.isListed = true ∧ q.dropLast = x.place := by
  obtain ⟨place, outcome⟩ := x
  cases outcome with
  | error t => simp [found] at h
  | ok names =>
    obtain ⟨n, -, rfl⟩ : ∃ n ∈ names, place ++ [n] = q := by simpa [found] using h
    simp [isListed]

theorem mem_troubles {xs : List Visit} {q : List Name} {t : Trouble} :
    (q, t) ∈ xs.filterMap trouble? ↔ ⟨q, .error t⟩ ∈ xs := by
  have same (x : Visit) : x.trouble? = some (q, t) ↔ x = ⟨q, .error t⟩ := by
    obtain ⟨place, outcome⟩ := x
    cases outcome <;> simp [trouble?]
  simp [same]

def warning? (root : Path) (x : Visit) : Option Warning :=
  x.trouble?.map fun y => skipped root y.1 y.2

/-- A visit whose trouble, if there is any, is not taken for one with the root. -/
def IsHarmless (d : Disk) (root : Path) (x : Visit) : Prop :=
  ∀ t, x.outcome = .error t → concernsRoot d root x.place t = false

end Visit

/-- How many of some visits are to directories that are listed. -/
def listedCount (xs : List Visit) : Nat := xs.countP Visit.isListed

/-- A signal lets some number of questions pass. -/
def StopSignal.Silent (stop : StopSignal) (start count : Nat) : Prop :=
  ∀ k, start ≤ k → k < start + count → stop k = false

theorem StopSignal.never_silent (start count : Nat) : StopSignal.never.Silent start count :=
  fun _ _ _ => rfl

theorem StopSignal.Silent.append {stop : StopSignal} {start m n : Nat} (hm : stop.Silent start m)
    (hn : stop.Silent (start + m) n) : stop.Silent start (m + n) := by
  intro k low high
  by_cases h : k < start + m
  · exact hm k low h
  · exact hn k (by omega) (by omega)

theorem listedCount_cons (x : Visit) (xs : List Visit) :
    listedCount (x :: xs) = listedCount [x] + listedCount xs := by
  rw [listedCount, ← List.singleton_append, List.countP_append]
  rfl

/-- A signal that is silent when it is asked for a visit, if it is. -/
theorem silent_singleton {stop : StopSignal} {start : Nat} {x : Visit}
    (goesOn : x.isListed = true → stop start = false) : stop.Silent start (listedCount [x]) := by
  intro k low high
  by_cases listed : x.isListed = true
  · have one : listedCount [x] = 1 := by simp [listedCount, listed]
    obtain rfl : k = start := by omega
    exact goesOn listed
  · have none : listedCount [x] = 0 := by simp [listedCount, listed]
    omega

namespace Discovery

/-! ## Many visits -/

/-- How far a walk has come when it has carried out some visits. -/
def Progress.after (root : Path) (p : Progress) (xs : List Visit) : Progress where
  checks := p.checks + listedCount xs
  found := p.found ++ xs.flatMap Visit.found
  warnings := p.warnings ++ xs.filterMap (Visit.warning? root)
  log := p.log ++ (xs.filterMap (Visit.warning? root)).map fun w => .warning sender w.message
  fault := p.fault

/-- A walk that the signal has stopped. -/
def Progress.cut (p : Progress) : Progress :=
  { p with
    checks := p.checks + 1
    log := p.log ++ [.info sender s!"Discovery stopped early after {p.found.length} files"] }

@[simp] theorem Progress.after_nil (root : Path) (p : Progress) : p.after root [] = p := by
  simp [Progress.after, listedCount]

theorem Progress.after_cons (root : Path) (p : Progress) (x : Visit) (xs : List Visit) :
    p.after root (x :: xs) = (p.after root [x]).after root xs := by
  have warnings : (x :: xs).filterMap (Visit.warning? root) =
      [x].filterMap (Visit.warning? root) ++ xs.filterMap (Visit.warning? root) := by
    rw [← List.filterMap_append]
    rfl
  simp only [Progress.after, listedCount_cons x xs, warnings]
  simp [Nat.add_assoc]

variable {d : Disk} {root : Path} {stop : StopSignal} {p : Progress} {x : Visit}
  {xs ys : List Visit}

/-- One visit that the walk goes on after. -/
theorem run_cons (harmless : x.IsHarmless d root)
    (goesOn : x.isListed = true → stop p.checks = false) :
    run d root stop (x :: xs) p = run d root stop xs (p.after root [x]) := by
  obtain ⟨place, outcome⟩ := x
  cases outcome with
  | ok names =>
    have silent := goesOn rfl
    simp [run, silent, Progress.after, listedCount, Visit.isListed, Visit.found, Visit.warning?,
      Visit.trouble?, List.filterMap_cons]
  | error t =>
    have other := harmless t rfl
    simp only at other
    simp [run, other, Progress.after, Progress.warn, listedCount, Visit.isListed, Visit.found,
      Visit.warning?, Visit.trouble?]

/-- A listed directory in front of which the walk is stopped. -/
theorem run_stopped (listed : x.isListed = true) (stopped : stop p.checks = true) :
    run d root stop (x :: xs) p = p.cut := by
  obtain ⟨place, outcome⟩ := x
  cases outcome with
  | ok names => simp [run, stopped, Progress.cut]
  | error t => cases listed

theorem run_append (harmless : ∀ x ∈ xs, x.IsHarmless d root)
    (silent : stop.Silent p.checks (listedCount xs)) :
    run d root stop (xs ++ ys) p = run d root stop ys (p.after root xs) := by
  induction xs generalizing p with
  | nil => simp
  | cons x xs ih =>
    have ⟨hx, hxs⟩ := List.forall_mem_cons.1 harmless
    have count := listedCount_cons x xs
    rw [List.cons_append, run_cons hx, ih hxs, ← Progress.after_cons]
    · intro k low high
      simp only [Progress.after] at low high
      exact silent k (by omega) (by omega)
    · intro listed
      have one : listedCount [x] = 1 := by simp [listedCount, listed]
      exact silent _ le_rfl (by omega)

/-- A walk that nothing stops carries out all visits. -/
theorem run_complete (harmless : ∀ x ∈ xs, x.IsHarmless d root)
    (silent : stop.Silent p.checks (listedCount xs)) :
    run d root stop xs p = p.after root xs := by
  rw [← List.append_nil xs, run_append harmless silent, List.append_nil]
  rfl

/-- However a walk ends, it has found what some first visits find. -/
theorem run_found (d : Disk) (root : Path) (stop : StopSignal) (xs : List Visit) (p : Progress) :
    ∃ before, before <+: xs ∧
      (run d root stop xs p).found = p.found ++ before.flatMap Visit.found := by
  induction xs generalizing p with
  | nil => exact ⟨[], List.nil_prefix, by simp [run]⟩
  | cons x xs ih =>
    obtain ⟨place, outcome⟩ := x
    -- The walk ends here, or it goes on with what this visit has found.
    cases outcome with
    | error t =>
      rw [run]
      split
      · exact ⟨[], List.nil_prefix, by simp⟩
      · obtain ⟨before, first, found⟩ := ih (p.warn root place t)
        exact ⟨_ :: before, List.cons_prefix_cons.2 ⟨rfl, first⟩, found⟩
    | ok names =>
      rw [run]
      split
      · exact ⟨[], List.nil_prefix, by simp⟩
      · obtain ⟨before, first, found⟩ := ih _
        refine ⟨_ :: before, List.cons_prefix_cons.2 ⟨rfl, first⟩, found.trans ?_⟩
        simp [Visit.found]

/-- A walk comes to its end, or it is cut in front of a directory that would have been listed. -/
theorem run_cases (stop : StopSignal) (p : Progress) (harmless : ∀ x ∈ xs, x.IsHarmless d root) :
    (stop.Silent p.checks (listedCount xs) ∧ run d root stop xs p = p.after root xs) ∨
      ∃ before y rest, xs = before ++ y :: rest ∧ y.isListed = true ∧
        stop.Silent p.checks (listedCount before) ∧
        stop (p.checks + listedCount before) = true ∧
        run d root stop xs p = (p.after root before).cut := by
  induction xs generalizing p with
  | nil =>
    refine .inl ⟨fun k low high => ?_, by simp [run]⟩
    simp only [listedCount, List.countP_nil] at high
    omega
  | cons x xs ih =>
    have ⟨hx, hxs⟩ := List.forall_mem_cons.1 harmless
    by_cases cut : x.isListed = true ∧ stop p.checks = true
    · refine .inr ⟨[], x, xs, rfl, cut.1, fun k low high => ?_, ?_, ?_⟩
      · simp only [listedCount, List.countP_nil] at high
        omega
      · simpa [listedCount] using cut.2
      · rw [run_stopped cut.1 cut.2, Progress.after_nil]
    · have goesOn : x.isListed = true → stop p.checks = false := by
        simpa using cut
      have first : stop.Silent p.checks (listedCount [x]) := silent_singleton goesOn
      have next : (p.after root [x]).checks = p.checks + listedCount [x] := rfl
      rw [run_cons hx goesOn]
      rcases ih (p.after root [x]) hxs with
        ⟨silent, done⟩ | ⟨before, y, rest, rfl, listed, silent, stopped, done⟩
      · refine .inl ⟨?_, ?_⟩
        · rw [listedCount_cons]
          exact first.append silent
        · rw [done, ← Progress.after_cons]
      · refine .inr ⟨x :: before, y, rest, rfl, listed, ?_, ?_, ?_⟩
        · rw [listedCount_cons]
          exact first.append silent
        · rw [listedCount_cons, ← Nat.add_assoc]
          exact stopped
        · rw [done, ← Progress.after_cons]

end Discovery

end ModuleAtlas
