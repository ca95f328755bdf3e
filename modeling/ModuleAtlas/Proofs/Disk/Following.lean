import ModuleAtlas.Proofs.Disk.Normalization

/-!
# Following paths

A path is followed component by component. On the way it comes upon places: those that its
components name, and those that the components of the links on the way name.

## Main definitions

* `Disk.FollowsUpon` — following components from a place comes upon another place.
* `Disk.ComesUpon` — a path that is followed comes upon a place.
-/
namespace ModuleAtlas

open Text

namespace Disk

/-- Following the components of a path from a place comes upon a place: one of them names it. -/
inductive FollowsUpon (top : Entry) (p : List Name) : Nat → List Path → List Name → Prop
  | here {links : Nat} {c : Path} {rest : List Path} {here : List Name} (named : here ++ [c] = p) :
      FollowsUpon top p links (c :: rest) here
  | later {links : Nat} {c : Path} {rest : List Path} {here q : List Name}
      (step : turn top here c = .place q) (h : FollowsUpon top p links rest q) :
      FollowsUpon top p links (c :: rest) here
  | through {links : Nat} {c target : Path} {rest : List Path} {here : List Name}
      (step : turn top here c = .link target)
      (h : FollowsUpon top p links (target.components ++ rest)
        (if target.isAbsolute then [] else here)) :
      FollowsUpon top p (links + 1) (c :: rest) here

/-- A path that is followed on a disk comes upon a place, at its end or on the way. -/
def ComesUpon (d : Disk) (path : Path) (p : List Name) : Prop :=
  FollowsUpon d.top p maxLinks (Path.join d.workingDirectory path).components []

/-! ## One component after the other -/

section Steps

variable {top : Entry} {links : Nat} {c : Path} {cs rest : List Path} {here p q : List Name}

@[simp] theorem follow_nil : follow top links [] here = .ok here := by
  cases links <;> rfl

theorem follow_place (step : turn top here c = .place q) :
    follow top links (c :: rest) here = follow top links rest q := by
  cases links <;> simp [follow, takeTurns, step]

theorem follow_fault {e : Errno} (step : turn top here c = .fault e) :
    follow top links (c :: rest) here = .error e := by
  cases links <;> simp [follow, takeTurns, step]

theorem follow_link {target : Path} (step : turn top here c = .link target) :
    follow top (links + 1) (c :: rest) here =
      follow top links (target.components ++ rest) (if target.isAbsolute then [] else here) := by
  simp [follow, takeTurns, step]

theorem follow_noLinks {target : Path} (step : turn top here c = .link target) :
    follow top 0 (c :: rest) here = .error .tooManyLinks := by
  simp [follow, takeTurns, step]

/-- To show a fact of all ways, show it step by step. -/
theorem following {P : Nat → List Path → List Name → Prop} (top : Entry)
    (done : ∀ links here, P links [] here)
    (place : ∀ {links c rest here q}, turn top here c = .place q → P links rest q →
      P links (c :: rest) here)
    (fault : ∀ {links c rest here e}, turn top here c = .fault e → P links (c :: rest) here)
    (link : ∀ {links c rest here target}, turn top here c = .link target →
      P links (target.components ++ rest) (if target.isAbsolute then [] else here) →
      P (links + 1) (c :: rest) here)
    (noLinks : ∀ {c rest here target}, turn top here c = .link target → P 0 (c :: rest) here)
    (links : Nat) (cs : List Path) (here : List Name) : P links cs here := by
  -- A link costs one of the links left, any other component is taken off the path.
  induction links generalizing cs here with
  | zero =>
    induction cs generalizing here with
    | nil => exact done 0 here
    | cons c rest ih =>
      cases step : turn top here c with
      | place q => exact place step (ih q)
      | fault e => exact fault step
      | link target => exact noLinks step
  | succ links ihl =>
    induction cs generalizing here with
    | nil => exact done _ here
    | cons c rest ih =>
      cases step : turn top here c with
      | place q => exact place step (ih q)
      | fault e => exact fault step
      | link target => exact link step (ihl _ _)

/-- A path comes upon a place in its first part, or in the second from where the first one ends. -/
theorem followsUpon_append (top : Entry) (p : List Name) (links : Nat) (cs : List Path)
    (here : List Name) : ∀ ds, FollowsUpon top p links (cs ++ ds) here →
      FollowsUpon top p links cs here ∨
        ∃ left q, follow top links cs here = .ok q ∧ FollowsUpon top p left ds q := by
  induction links, cs, here using following top with
  | done links here => exact fun ds upon => .inr ⟨links, here, follow_nil, upon⟩
  | place step ih =>
    intro ds upon
    cases upon with
    | here named => exact .inl (.here named)
    | through step' _ => cases step.symm.trans step'
    | later step' upon =>
      cases step.symm.trans step'
      rcases ih ds upon with upon | ⟨left, q, ends, upon⟩
      · exact .inl (.later step upon)
      · exact .inr ⟨left, q, by rw [follow_place step, ends], upon⟩
  | fault step =>
    intro ds upon
    cases upon with
    | here named => exact .inl (.here named)
    | later step' _ => cases step.symm.trans step'
    | through step' _ => cases step.symm.trans step'
  | link step ih =>
    intro ds upon
    cases upon with
    | here named => exact .inl (.here named)
    | later step' _ => cases step.symm.trans step'
    | through step' upon =>
      cases step.symm.trans step'
      have onward := ih ds (by rw [List.append_assoc]; exact upon)
      rcases onward with upon | ⟨left, q, ends, upon⟩
      · exact .inl (.through step upon)
      · exact .inr ⟨left, q, by rw [follow_link step, ends], upon⟩
  | noLinks step =>
    intro ds upon
    cases upon with
    | here named => exact .inl (.here named)
    | later step' _ => cases step.symm.trans step'

theorem not_followsUpon_nil : ¬ FollowsUpon top p links [] here := nofun

theorem not_followsUpon_place (other : here ++ [c] ≠ p) (step : turn top here c = .place q)
    (clear : ¬ FollowsUpon top p links rest q) : ¬ FollowsUpon top p links (c :: rest) here := by
  intro upon
  cases upon with
  | here named => exact other named
  | later step' upon =>
    cases step.symm.trans step'
    exact clear upon
  | through step' _ => cases step.symm.trans step'

theorem not_followsUpon_link {target : Path} (other : here ++ [c] ≠ p)
    (step : turn top here c = .link target)
    (clear : ¬ FollowsUpon top p links (target.components ++ rest)
      (if target.isAbsolute then [] else here)) :
    ¬ FollowsUpon top p (links + 1) (c :: rest) here := by
  intro upon
  cases upon with
  | here named => exact other named
  | later step' _ => cases step.symm.trans step'
  | through step' upon =>
    cases step.symm.trans step'
    exact clear upon

/-- An empty component at the end of a path changes nothing when there is a directory. -/
theorem follow_of_append_empty (links : Nat) (cs : List Path) (here : List Name) :
    follow top links (cs ++ [[]]) here = .ok q → follow top links cs here = .ok q := by
  induction links, cs, here using following top with
  | done links here =>
    intro ends
    have stay : turn top here [] = .place here ∨ turn top here [] = .fault .notDirectory := by
      unfold turn
      split
      · exact .inl (by simp)
      · exact .inr rfl
    rcases stay with step | step
    · rw [List.nil_append, follow_place step] at ends
      simpa using ends
    · rw [List.nil_append, follow_fault step] at ends
      cases ends
  | place step ih =>
    rw [List.cons_append, follow_place step, follow_place step]
    exact ih
  | fault step =>
    rw [List.cons_append, follow_fault step, follow_fault step]
    exact id
  | link step ih =>
    rw [List.cons_append, follow_link step, follow_link step, ← List.append_assoc]
    exact ih
  | noLinks step =>
    rw [List.cons_append, follow_noLinks step, follow_noLinks step]
    exact id

/-- One component leads no further than to the place that it names; on the way up it stays above. -/
theorem turn_place (step : turn top here c = .place q) :
    (∃ r, top.node? here = some (.directory r)) ∧
      (q = here ∨ q = here.dropLast ∨ q = here ++ [c]) := by
  unfold turn at step
  split at step
  · next r hr =>
    refine ⟨⟨r, hr⟩, ?_⟩
    split at step
    · cases step
      exact .inl rfl
    · split at step
      · cases step
        exact .inr (.inl rfl)
      · split at step
        · cases step
        · cases node : top.node? (here ++ [c]) with
          | none => simp [node, Turn.into] at step
          | some x => cases x <;> simp_all [Turn.into]
  · cases step

theorem turn_directory {r : Option Refusal} (h : top.node? here = some (.directory r))
    (hc : Path.IsProper c) : turn top here c =
      if maxNameLength < Path.byteLength c then .fault .nameTooLong
      else .into (here ++ [c]) (top.node? (here ++ [c])) := by
  simp [turn, h, hc.notEmpty, hc.notDot, hc.notParent]

/-- A component that is a name leads from a directory to the place with that name. -/
theorem turn_name (hc : Path.IsProper c) : (∀ q, turn top here c = .place q → q = here ++ [c]) ∧
    ∀ target, turn top here c = .link target → top.node? (here ++ [c]) = some (.link target) := by
  by_cases dir : ∃ r, top.node? here = some (.directory r)
  · obtain ⟨r, hr⟩ := dir
    rw [turn_directory hr hc]
    split
    · simp
    · cases top.node? (here ++ [c]) with
      | none => simp [Turn.into]
      | some x => cases x <;> simp [Turn.into, eq_comm]
  · have stuck : turn top here c = .fault .notDirectory := by
      unfold turn
      split
      · next r hr => exact absurd ⟨r, hr⟩ dir
      · rfl
    simp [stuck]

/-- Names that lead through directories come upon nothing but the places on their way. -/
theorem followsUpon_names {names : List Name} (proper : ∀ n ∈ names, Path.IsProper n)
    (through : ∀ a b, names = a ++ b → a ≠ [] → b ≠ [] →
      ∃ r, top.node? (q ++ a) = some (.directory r))
    (last : ∀ target, top.node? (q ++ names) ≠ some (.link target))
    (upon : FollowsUpon top p links names q) : ∃ a b, names = a ++ b ∧ a ≠ [] ∧ p = q ++ a := by
  induction names generalizing q with
  | nil => cases upon
  | cons n names ih =>
    have ⟨hn, hnames⟩ := List.forall_mem_cons.1 proper
    have ⟨place, link⟩ : (∀ q', turn top q n = .place q' → q' = q ++ [n]) ∧ _ := turn_name hn
    have assoc (a : List Name) : q ++ [n] ++ a = q ++ n :: a := by simp
    cases upon with
    | here named => exact ⟨[n], names, rfl, by simp, named.symm⟩
    | later step upon =>
      cases place _ step
      have through' : ∀ a b, names = a ++ b → a ≠ [] → b ≠ [] →
          ∃ r, top.node? (q ++ [n] ++ a) = some (.directory r) := by
        rintro a b rfl - hb
        rw [assoc]
        exact through (n :: a) b rfl (by simp) hb
      obtain ⟨a, b, rfl, -, rfl⟩ := ih hnames through' (by simpa [assoc] using last) upon
      exact ⟨n :: a, b, rfl, by simp, assoc a⟩
    | through step upon =>
      have node := link _ step
      cases names with
      | nil => exact absurd node (last _)
      | cons m names =>
        obtain ⟨r, hr⟩ := through [n] (m :: names) rfl (by simp) (by simp)
        cases node.symm.trans hr

theorem follow_of_locate {d : Disk} {path : Path} (h : d.locate path = .ok q) :
    follow d.top maxLinks (Path.join d.workingDirectory path).components [] = .ok q := by
  rw [locate] at h
  split at h
  · cases h
  · split at h
    · cases h
    · exact h

end Steps

/-! ## Disks that look alike on a way -/

theorem Turn.into_congr {q : List Name} {x y : Option Node} (free : x = none ↔ y = none)
    (link : ∀ target, x = some (.link target) ↔ y = some (.link target)) :
    Turn.into q x = Turn.into q y := by
  cases x with
  | none => rw [free.1 rfl]
  | some x =>
    cases y with
    | none => cases free.2 rfl
    | some y =>
      cases x with
      | link target => rw [(link target).1 rfl]
      | file _ =>
        cases y with
        | link target => cases (link target).2 rfl
        | file _ => rfl
        | directory _ => rfl
      | directory _ =>
        cases y with
        | link target => cases (link target).2 rfl
        | file _ => rfl
        | directory _ => rfl

/-- Two entries that look alike to one component of a path. -/
theorem turn_congr {top top' : Entry} {here : List Name} {c : Path}
    (directory : (∃ r, top.node? here = some (.directory r)) ↔
      ∃ r, top'.node? here = some (.directory r))
    (free : top.node? (here ++ [c]) = none ↔ top'.node? (here ++ [c]) = none)
    (link : ∀ target, top.node? (here ++ [c]) = some (.link target) ↔
      top'.node? (here ++ [c]) = some (.link target)) :
    turn top here c = turn top' here c := by
  by_cases dir : ∃ r, top.node? here = some (.directory r)
  · obtain ⟨r, hr⟩ := dir
    obtain ⟨r', hr'⟩ := directory.1 ⟨r, hr⟩
    simp only [turn, hr, hr', Turn.into_congr free link]
  · have stuck (e : Entry) (none : ¬ ∃ r, e.node? here = some (.directory r)) :
        turn e here c = .fault .notDirectory := by
      unfold turn
      split
      · next r hr => exact absurd ⟨r, hr⟩ none
      · rfl
    rw [stuck top dir, stuck top' fun h => dir (directory.2 h)]

end Disk

end ModuleAtlas
