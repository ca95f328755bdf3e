import ModuleAtlas.Proofs.Disk.Following

/-!
# Disks that differ at one place

What lies where a path leads to is the same on two disks that differ at one place alone, when the
path does not come upon that place, or when the place holds a directory on both of them. A path that
leads to a directory never comes upon a place behind which nothing lies.

## Main definitions

* `Disk.IsProper` — a disk as a file system holds it.
* `Disk.AgreeExcept` — two disks with the same nodes at all places but one.
* `Entry.IsDead` — nothing lies behind a place: it is free, or it holds a file.
-/
namespace ModuleAtlas

open Text

/-- Nothing lies behind a place. -/
def Entry.IsDead (e : Entry) (p : List Name) : Prop :=
  e.node? p = none ∨ ∃ content, e.node? p = some (.file content)

def Entry.HasDirectory (e : Entry) (p : List Name) : Prop := ∃ r, e.node? p = some (.directory r)

theorem Entry.IsDead.not_directory {e : Entry} {p : List Name} (h : e.IsDead p) :
    ¬ e.HasDirectory p := by
  rintro ⟨r, hr⟩
  rcases h with h | ⟨content, h⟩ <;> cases h.symm.trans hr

/-- A disk as a file system holds it: names are proper, and the working directory is known. -/
structure Disk.IsProper (d : Disk) : Prop where
  names : d.top.isProper = true
  workingDirectory : Path.isAbsolute d.workingDirectory = true

theorem Disk.IsProper.isAbsolute {d : Disk} (hd : d.IsProper) (path : Path) :
    Path.isAbsolute (d.absolute path) = true :=
  Path.isAbsolute_absolute hd.workingDirectory path

structure Disk.AgreeExcept (p : List Name) (d d' : Disk) : Prop where
  workingDirectory : d.workingDirectory = d'.workingDirectory
  top : Entry.AgreeExcept p d.top d'.top

namespace Disk

/-! ## Ways that do not come upon the place -/

section Ways

variable {top top' : Entry} {p here : List Name}

theorem turn_eq_of_dead (agree : Entry.AgreeExcept p top top') (dead : top.IsDead p)
    (dead' : top'.IsDead p) {c : Path} (other : here ++ [c] ≠ p) :
    turn top here c = turn top' here c := by
  have there := agree _ other
  refine turn_congr ?_ (by rw [there]) (fun target => by rw [there])
  by_cases h : here = p
  · subst h
    exact iff_of_false dead.not_directory dead'.not_directory
  · rw [agree here h]

theorem turn_eq_of_directories (agree : Entry.AgreeExcept p top top') (dir : top.HasDirectory p)
    (dir' : top'.HasDirectory p) (here : List Name) (c : Path) :
    turn top here c = turn top' here c := by
  obtain ⟨r, hr⟩ := dir
  obtain ⟨r', hr'⟩ := dir'
  have same (q : List Name) : top.node? q = top'.node? q ∨
      ∃ r r', top.node? q = some (.directory r) ∧ top'.node? q = some (.directory r') := by
    by_cases h : q = p
    · subst h
      exact .inr ⟨r, r', hr, hr'⟩
    · exact .inl (agree q h)
  apply turn_congr
  · rcases same here with h | ⟨r, r', h, h'⟩ <;> simp [*]
  · rcases same (here ++ [c]) with h | ⟨r, r', h, h'⟩ <;> simp [*]
  · rcases same (here ++ [c]) with h | ⟨r, r', h, h'⟩ <;> simp [*]

theorem follow_congr (links : Nat) (cs : List Path) (here : List Name)
    (agree : ∀ here c, here ++ [c] ≠ p → turn top here c = turn top' here c)
    (clear : ¬ FollowsUpon top p links cs here) :
    follow top' links cs here = follow top links cs here := by
  induction links, cs, here using following top with
  | done links here => simp
  | @place links c rest here q step ih =>
    have step' := (agree here c fun named => clear (.here named)).symm.trans step
    rw [follow_place step, follow_place step', ih fun upon => clear (.later step upon)]
  | @fault links c rest here e step =>
    have step' := (agree here c fun named => clear (.here named)).symm.trans step
    rw [follow_fault step, follow_fault step']
  | @link links c rest here target step ih =>
    have step' := (agree here c fun named => clear (.here named)).symm.trans step
    rw [follow_link step, follow_link step', ih fun upon => clear (.through step upon)]
  | @noLinks c rest here target step =>
    have step' := (agree here c fun named => clear (.here named)).symm.trans step
    rw [follow_noLinks step, follow_noLinks step']

theorem follow_eq_of_turns (same : turn top = turn top') (links : Nat) :
    follow top' links = follow top links := by
  have turns (onLink : List Path → List Name → Except Errno (List Name)) (cs : List Path)
      (here : List Name) : takeTurns top' onLink cs here = takeTurns top onLink cs here := by
    induction cs generalizing here with
    | nil => rfl
    | cons c rest ih => simp only [takeTurns, same, ih]
  induction links with
  | zero => exact funext₂ (turns _)
  | succ links ih =>
    rw [follow, follow, ih]
    exact funext₂ (turns _)

/-- A way that comes upon a dead place ends there, if it does not fail. -/
theorem follow_of_followsUpon_dead {way : List Name} {n : Name} (hn : Path.IsProper n)
    (hp : p = way ++ [n]) (dead : top.IsDead p) {links : Nat} {cs : List Path} {q : List Name}
    (upon : FollowsUpon top p links cs here) (ends : follow top links cs here = .ok q) : q = p := by
  induction upon with
  | later step _ ih => exact ih (by rwa [follow_place step] at ends)
  | through step _ ih => exact ih (by rwa [follow_link step] at ends)
  | @here links c rest here named =>
    obtain ⟨-, hc⟩ := List.append_inj' (named.trans hp) rfl
    cases hc
    cases step : turn top here n with
    | fault e =>
      rw [follow_fault step] at ends
      cases ends
    | link target =>
      have node := (turn_name hn).2 _ step
      rw [named] at node
      rcases dead with h | ⟨content, h⟩ <;> cases h.symm.trans node
    | place q' =>
      cases (turn_name hn).1 _ step
      rw [follow_place step, named] at ends
      cases rest with
      | nil => simpa [eq_comm] using ends
      | cons c rest =>
        have stuck : turn top p c = .fault .notDirectory := by
          unfold turn
          split
          · next r hr => exact absurd ⟨r, hr⟩ dead.not_directory
          · rfl
        rw [follow_fault stuck] at ends
        cases ends

/-- A way that does not come upon a dead place does not end there. -/
theorem ne_of_follow (dead : top.IsDead p) (hp : p ≠ []) (links : Nat) (cs : List Path)
    (here : List Name) (hhere : here ≠ p) (clear : ¬ FollowsUpon top p links cs here)
    {q : List Name} (ends : follow top links cs here = .ok q) : q ≠ p := by
  induction links, cs, here using following top with
  | done links here =>
    rw [follow_nil] at ends
    cases ends
    exact hhere
  | @place links c rest here q' step ih =>
    rw [follow_place step] at ends
    refine ih ?_ (fun upon => clear (.later step upon)) ends
    rintro rfl
    obtain ⟨⟨r, hr⟩, rfl | up | named⟩ := turn_place step
    · exact hhere rfl
    · rcases List.eq_nil_or_concat here with rfl | ⟨above, n, rfl⟩
      · exact hp up
      · rw [List.concat_eq_append, List.dropLast_concat] at up
        rw [List.concat_eq_append, ← up] at hr
        exact dead.not_directory (Entry.directory_of_node?_append (by simp) hr)
    · exact clear (.here named.symm)
  | fault step =>
    rw [follow_fault step] at ends
    cases ends
  | @link links c rest here target step ih =>
    rw [follow_link step] at ends
    refine ih ?_ (fun upon => clear (.through step upon)) ends
    split
    · exact fun h => hp h.symm
    · exact hhere
  | noLinks step =>
    rw [follow_noLinks step] at ends
    cases ends

end Ways

/-! ## Paths -/

variable {d d' : Disk} {p : List Name} {path : Path}

theorem locate_eq_of_clear (agree : AgreeExcept p d d') (dead : d.top.IsDead p)
    (dead' : d'.top.IsDead p) (clear : ¬ d.ComesUpon path p) : d'.locate path = d.locate path := by
  have same := follow_congr _ _ _ (fun _ _ => turn_eq_of_dead agree.top dead dead') clear
  rw [locate, locate, ← agree.workingDirectory, same]

/-- Where a path leads to that does not come upon the place, the same lies on both disks. -/
theorem nodeAt_eq_of_clear (agree : AgreeExcept p d d') (dead : d.top.IsDead p)
    (dead' : d'.top.IsDead p) (hp : p ≠ []) (clear : ¬ d.ComesUpon path p) :
    d'.nodeAt path = d.nodeAt path := by
  rw [nodeAt, nodeAt, locate_eq_of_clear agree dead dead' clear]
  cases ends : d.locate path with
  | error e => rfl
  | ok q =>
    have other : q ≠ p :=
      ne_of_follow dead hp _ _ _ (Ne.symm hp) clear (follow_of_locate ends)
    simp only [agree.top q other]

theorem locate_eq_of_directories (agree : AgreeExcept p d d') (dir : d.top.HasDirectory p)
    (dir' : d'.top.HasDirectory p) (path : Path) : d'.locate path = d.locate path := by
  have same := funext₂ (turn_eq_of_directories agree.top dir dir')
  rw [locate, locate, ← agree.workingDirectory, follow_eq_of_turns same]

/-- What a directory refuses is not seen by a path that leads to it. -/
theorem isDirectory_eq_of_directories (agree : AgreeExcept p d d') (dir : d.top.HasDirectory p)
    (dir' : d'.top.HasDirectory p) (path : Path) : d'.isDirectory path = d.isDirectory path := by
  rw [isDirectory, isDirectory, nodeAt, nodeAt, locate_eq_of_directories agree dir dir']
  cases d.locate path with
  | error e => rfl
  | ok q =>
    by_cases h : q = p
    · obtain ⟨r, hr⟩ := dir
      obtain ⟨r', hr'⟩ := dir'
      simp [h, hr, hr']
    · simp only [agree.top q h]

end Disk

end ModuleAtlas
