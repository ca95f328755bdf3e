import ModuleAtlas.Proofs.Discovery.Exactness

/-!
# Trees that differ in one file

A file is written, over another one or where there was none. A walk below a root goes the same way
as before and lists the same directories, and all other places are eligible as they were. No link
may lead to the file or try to go through it.

## Main definitions

* `Disk.FileChange` — two disks that differ in one file below a root.
* `Findable` — a regular file at a place is found.
-/
namespace ModuleAtlas

open Text

/-- Two disks that differ in one file below a root. The second one has it; on the first one there is
another file or nothing in its place. No link below the root comes upon it. -/
structure Disk.FileChange (d d' : Disk) (root : Path) (above place : List Name) : Prop where
  proper : d.IsProper
  proper' : d'.IsProper
  agree : Disk.AgreeExcept (above ++ place) d d'
  located : d.locate root = .ok above
  before : d.top.IsDead (above ++ place)
  after : ∃ content, d'.top.node? (above ++ place) = some (.file content)
  links : ∀ q target, d.top.node? (above ++ q) = some (.link target) →
    ¬ d.ComesUpon (Discovery.fullPath root q) (above ++ place)

namespace Disk.FileChange

variable {d d' : Disk} {root : Path} {above place : List Name}
  (change : FileChange d d' root above place)
include change

theorem dead : d'.top.IsDead (above ++ place) := .inr change.after

theorem place_isProper : ∀ n ∈ place, Path.IsProper n := by
  obtain ⟨content, node⟩ := change.after
  have names := Discovery.isProper_of_node? change.proper'.names node
  exact fun n hn => names n (List.mem_append_right _ hn)

end Disk.FileChange

namespace Discovery

/-- The same directories at the same places, listed alike. -/
def SameDirectories (e e' : Entry) : Prop :=
  ∀ q r, e.node? q = some (.directory r) ↔ e'.node? q = some (.directory r)

section Directories

variable {c : Config} {e e' : Entry} {q : List Name} {t : Trouble}

theorem SameDirectories.entered (same : SameDirectories e e') (way : List Name) (name : Name) :
    Entered c e way name ↔ Entered c e' way name := by
  simp only [Entered, same _ _]

theorem SameDirectories.reached (same : SameDirectories e e') (q : List Name) :
    Reached c e q ↔ Reached c e' q := by
  simp only [Reached, same.entered]

theorem SameDirectories.unlistable (same : SameDirectories e e') :
    Unlistable c e q t ↔ Unlistable c e' q t := by
  simp only [Unlistable, same.reached, same _ _]

end Directories

/-! ## One file among the others -/

section Others

variable {d : Disk} {root : Path} {c : Config} {e : Entry} {place : List Name}

/-- The files that a walk finds, without the one at a place. -/
def others (d : Disk) (root : Path) (c : Config) (e : Entry) (place : List Name) :
    List SourceFile :=
  ((places d root c e).filter fun q => q != place).map (sourceFile root)

/-- The others that stand before a place, and those that stand behind it. -/
def filesBefore (d : Disk) (root : Path) (c : Config) (e : Entry) (place : List Name) :
    List SourceFile :=
  (others d root c e place).filter fun g => inOrder g (sourceFile root place)

def filesAfter (d : Disk) (root : Path) (c : Config) (e : Entry) (place : List Name) :
    List SourceFile :=
  (others d root c e place).filter fun g => !inOrder g (sourceFile root place)

theorem others_inOrder (d : Disk) (root : Path) (c : Config) (e : Entry) (place : List Name) :
    (others d root c e place).Pairwise fun a b => inOrder a b = true :=
  (files_inOrder d root c e).sublist (List.filter_sublist.map _)

theorem others_eq_append (d : Disk) (root : Path) (c : Config) (e : Entry) (place : List Name) :
    others d root c e place = filesBefore d root c e place ++ filesAfter d root c e place :=
  eq_append_of_inOrder (sourceFile root place) (others_inOrder d root c e place)

/-- A file that is found stands in its place among the others. -/
theorem files_of_eligible (hd : d.IsProper) (hroot : Listable d root e)
    (h : Eligible d root c e place) : (whole d root c e).files =
      filesBefore d root c e place ++ sourceFile root place :: filesAfter d root c e place := by
  have sorted := others_inOrder d root c e place
  refine eq_of_inOrder (files_inOrder d root c e) (inOrder_middle _ sorted) ?_
  refine .trans ?_ List.perm_middle.symm
  rw [← others_eq_append]
  have mem : place ∈ places d root c e := (mem_places hd hroot).2 h
  have without := (nodup_places (c := c) hd hroot).erase_eq_filter place
  have split := (List.perm_cons_erase mem).map (sourceFile root)
  rwa [without] at split

theorem files_of_not_eligible (hd : d.IsProper) (hroot : Listable d root e)
    (h : ¬ Eligible d root c e place) : (whole d root c e).files =
      filesBefore d root c e place ++ filesAfter d root c e place := by
  have all : (places d root c e).filter (fun q => q != place) = places d root c e := by
    rw [List.filter_eq_self]
    intro q hq
    have eligible := (mem_places hd hroot).1 hq
    exact bne_iff_ne.2 fun same => h (same ▸ eligible)
  rw [← others_eq_append, others, all, whole]

/-- The files of a walk stand before each place and behind it, and at it if one is found there. -/
theorem exists_own (hd : d.IsProper) (c : Config) (hroot : Listable d root e)
    (place : List Name) :
    ∃ own : Option SourceFile, (whole d root c e).files =
        filesBefore d root c e place ++ own.toList ++ filesAfter d root c e place ∧
      (Eligible d root c e place → own = some (sourceFile root place)) ∧
      (¬ Eligible d root c e place → own = none) := by
  by_cases h : Eligible d root c e place
  · refine ⟨some (sourceFile root place), ?_, fun _ => rfl, fun h' => absurd h h'⟩
    simp [files_of_eligible hd hroot h]
  · refine ⟨none, ?_, fun h' => absurd h' h, fun _ => rfl⟩
    simp [files_of_not_eligible hd hroot h]

theorem path_le_of_mem_filesBefore {f : SourceFile} (h : f ∈ filesBefore d root c e place) :
    f.path ≤ (sourceFile root place).path :=
  path_le_of_inOrder (List.mem_filter.1 h).2

theorem path_le_of_mem_filesAfter {f : SourceFile} (h : f ∈ filesAfter d root c e place) :
    (sourceFile root place).path ≤ f.path := by
  have after := (List.mem_filter.1 h).2
  have total := inOrder_total f (sourceFile root place)
  refine path_le_of_inOrder ?_
  simp_all

/-- A regular file at a place is found: its name is that of a source file, and all directories on
the way are entered. -/
def Findable (c : Config) (e : Entry) (q : List Name) : Prop :=
  Reached c e q ∧ ∃ way name, q = way ++ [name] ∧ c.isSourceFile name = true

theorem Eligible.findable (h : Eligible d root c e place) : Findable c e place :=
  ⟨h.reached, h.named⟩

theorem eligible_of_file {content : List UInt8} (h : e.node? place = some (.file content)) :
    Eligible d root c e place ↔ Findable c e place :=
  ⟨Eligible.findable, fun h' => ⟨.inl ⟨content, h⟩, h'.1, h'.2⟩⟩

end Others

/-! ## The change and the root -/

section Change

variable {d d' : Disk} {root : Path} {above place q : List Name} {c : Config} {e e' : Entry}
  (change : Disk.FileChange d d' root above place) (hroot : Listable d root e)
include change hroot

theorem found_above : d.top.at? above = some e := by
  obtain ⟨p, located, found⟩ := (openRoot_eq_ok.1 hroot.opened).1
  cases located.symm.trans change.located
  exact found

theorem place_ne_nil : place ≠ [] := by
  rintro rfl
  have dead := change.before
  obtain ⟨r, es, rfl⟩ := directory_of_isDirectory (openRoot_eq_ok.1 hroot.opened).2.2.1
  rw [List.append_nil] at dead
  exact dead.not_directory ⟨r, Entry.at?_directory.2 ⟨es, found_above change hroot⟩⟩

/-- The root is a directory on both disks, and what is in it differs in the file only. -/
theorem exists_entry : ∃ e', d'.top.at? above = some e' ∧ Entry.AgreeExcept place e e' ∧
    e'.node = e.node := by
  have other : above ≠ above ++ place := by simpa using place_ne_nil change hroot
  have found := found_above change hroot
  have node := change.agree.top above other
  rw [Entry.node?, found, Option.map_some, eq_comm, Entry.node?_eq_some] at node
  obtain ⟨e', found', same⟩ := node
  exact ⟨e', found', change.agree.top.below found found', same⟩

/-- A way from the root that comes upon the file does not lead to the root. -/
theorem ne_above {links : Nat} {cs : List Path} {here q : List Name}
    (upon : Disk.FollowsUpon d.top (above ++ place) links cs here)
    (ends : Disk.follow d.top links cs here = .ok q) : q ≠ above := by
  have notRoot := place_ne_nil change hroot
  obtain ⟨way, n, rfl⟩ := (List.eq_nil_or_concat place).resolve_left notRoot
  have proper : Path.IsProper n := change.place_isProper n (by simp)
  have split : above ++ way.concat n = (above ++ way) ++ [n] := by simp
  have there := Disk.follow_of_followsUpon_dead proper split change.before upon ends
  simp [there]

theorem root_clear : ¬ d.ComesUpon root (above ++ place) := fun upon =>
  ne_above change hroot upon (Disk.follow_of_locate change.located) rfl

theorem located_after : d'.locate root = .ok above :=
  (Disk.locate_eq_of_clear change.agree change.before change.dead
    (root_clear change hroot)).trans change.located

/-- No directory is made or lost. -/
theorem sameDirectories (found' : d'.top.at? above = some e') : SameDirectories e e' := by
  have found := found_above change hroot
  intro q r
  by_cases same : q = place
  · subst same
    rw [← Entry.node?_of_at? found, ← Entry.node?_of_at? found']
    exact iff_of_false (fun h => change.before.not_directory ⟨r, h⟩)
      fun h => change.dead.not_directory ⟨r, h⟩
  · rw [change.agree.top.below found found' q same]

/-- The root can be listed after the change. -/
theorem exists_listable : ∃ e', Listable d' root e' := by
  obtain ⟨e', found', agree, node⟩ := exists_entry change hroot
  obtain ⟨-, noNul, dir, first⟩ := openRoot_eq_ok.1 hroot.opened
  refine ⟨e', openRoot_eq_ok.2 ⟨⟨above, located_after change hroot, found'⟩, noNul, ?_, ?_⟩,
    ?_, ?_⟩
  · rwa [Entry.isDirectory_of_node node]
  · rwa [Entry.trouble?_of_node node]
  · rw [Entry.trouble?_of_node node]
    exact hroot.listed
  · intro q r reason here trouble
    have same : d'.absolute [] = d.absolute [] := by
      rw [Disk.absolute, Disk.absolute, change.agree.workingDirectory]
    rw [same]
    exact hroot.elsewhere q r reason ((sameDirectories change hroot found' q r).2 here) trouble

end Change

/-! ## The other places -/

section Others

variable {d d' : Disk} {root : Path} {above place q : List Name} {c : Config} {e e' : Entry}
  (change : Disk.FileChange d d' root above place) (hroot : Listable d root e)
  (hroot' : Listable d' root e')
include change hroot hroot'

theorem found_above_after : d'.top.at? above = some e' := by
  obtain ⟨p, located, found⟩ := (openRoot_eq_ok.1 hroot'.opened).1
  cases located.symm.trans (located_after change hroot)
  exact found

theorem entries_agree : Entry.AgreeExcept place e e' :=
  change.agree.top.below (found_above change hroot) (found_above_after change hroot hroot')

theorem directories_agree : SameDirectories e e' :=
  sameDirectories change hroot (found_above_after change hroot hroot')

end Others

section Clear

variable {d d' : Disk} {root : Path} {above place q : List Name} {c : Config} {e e' : Entry}
  (change : Disk.FileChange d d' root above place) (hroot : Listable d root e)
  (habs : Path.isAbsolute root = true)
include change hroot habs

/-- The path of another file below the root does not come upon the changed one. -/
theorem file_clear (other : q ≠ place) {content : List UInt8}
    (node : e.node? q = some (.file content)) :
    ¬ d.ComesUpon (fullPath root q) (above ++ place) := by
  intro upon
  have proper := isProper_of_node? (hroot.isProper change.proper) node
  have below := Entry.node?_of_at? (found_above change hroot)
  have directory (a b : List Name) (split : q = a ++ b) (hb : b ≠ []) :
      ∃ r, d.top.node? (above ++ a) = some (.directory r) := by
    rw [below]
    exact Entry.directory_of_node?_append hb (split ▸ node)
  obtain ⟨cs, joined, rooted⟩ := Path.components_foldl_join habs proper
  have ends : Disk.follow d.top Disk.maxLinks cs [] = .ok above := by
    have ends := Disk.follow_of_locate change.located
    rw [Path.join_of_isAbsolute habs] at ends
    rcases rooted with rooted | rooted
    · rwa [rooted] at ends
    · rw [rooted] at ends
      exact Disk.follow_of_append_empty _ _ _ ends
  rw [Disk.ComesUpon, fullPath, Path.join_of_isAbsolute (Path.isAbsolute_foldl_join habs proper),
    joined] at upon
  rcases Disk.followsUpon_append _ _ _ _ _ q upon with early | ⟨left, p, ends', late⟩
  · exact ne_above change hroot early ends rfl
  · cases ends'.symm.trans ends
    have notLink (target : Path) : d.top.node? (above ++ q) ≠ some (.link target) := by
      rw [below, node]
      simp
    obtain ⟨a, b, split, -, there⟩ := Disk.followsUpon_names proper
      (fun a b split _ hb => directory a b split hb) notLink late
    obtain rfl := List.append_cancel_left there
    by_cases hb : b = []
    · exact other (by simpa [hb] using split)
    · exact change.before.not_directory (directory place b split hb)

/-- The same lies where the paths of files and links below the root lead to. -/
theorem nodeAt_eq (other : q ≠ place)
    (node : (∃ content, e.node? q = some (.file content)) ∨
      ∃ target, e.node? q = some (.link target)) :
    d'.nodeAt (fullPath root q) = d.nodeAt (fullPath root q) := by
  have notTop : above ++ place ≠ [] := by simp [place_ne_nil change hroot]
  refine Disk.nodeAt_eq_of_clear change.agree change.before change.dead notTop ?_
  rcases node with ⟨content, node⟩ | ⟨target, node⟩
  · exact file_clear change hroot habs other node
  · refine change.links q target ?_
    rw [Entry.node?_of_at? (found_above change hroot), node]

/-- All other files are read as they were. -/
theorem readFile_eq (other : q ≠ place) (h : Eligible d root c e q) :
    d'.readFile (fullPath root q) = d.readFile (fullPath root q) := by
  have node := h.holdsFile.imp_right And.left
  rw [Disk.readFile, Disk.readFile, nodeAt_eq change hroot habs other node]

omit habs

/-- So is the file that it has been before, if there has been one. -/
theorem eligible_before (there : d.top.node? (above ++ place) ≠ none) :
    Eligible d root c e place ↔ Findable c e place := by
  rcases change.before with free | ⟨content, node⟩
  · exact absurd free there
  · rw [Entry.node?_of_at? (found_above change hroot)] at node
    exact eligible_of_file node

theorem not_eligible_before (free : d.top.node? (above ++ place) = none) :
    ¬ Eligible d root c e place := by
  intro h
  obtain ⟨x, node⟩ := h.holdsFile.node
  rw [Entry.node?_of_at? (found_above change hroot), node] at free
  cases free

end Clear

section Walks

variable {d d' : Disk} {root : Path} {above place q : List Name} {c : Config} {e e' : Entry}
  (change : Disk.FileChange d d' root above place) (hroot : Listable d root e)
  (hroot' : Listable d' root e') (habs : Path.isAbsolute root = true)
include change hroot hroot'

/-- The same directories cannot be listed. -/
theorem unread_eq : unread d' root c e' = unread d root c e := by
  have same := directories_agree change hroot hroot'
  have ordered := unread_ordered (c := c) change.proper hroot
  have ordered' := unread_ordered (c := c) change.proper' hroot'
  have nodup {xs : List (List Name × Trouble)}
      (h : xs.Pairwise fun x y => Precedes x.1 y.1) : xs.Nodup :=
    h.imp fun before same => before.ne (congrArg Prod.fst same)
  refine List.Perm.eq_of_pairwise (fun x y _ _ h h' => absurd h' h.asymm) ordered' ordered ?_
  refine (List.perm_ext_iff_of_nodup (nodup ordered') (nodup ordered)).2 fun x => ?_
  exact (mem_unread change.proper' hroot').trans
    (same.unlistable.symm.trans (mem_unread change.proper hroot).symm)

include habs

/-- All other places are eligible as they were. -/
theorem eligible_iff (other : q ≠ place) :
    Eligible d' root c e' q ↔ Eligible d root c e q := by
  have node : e.node? q = e'.node? q := entries_agree change hroot hroot' q other
  have reached := (directories_agree change hroot hroot').reached (c := c) q
  have holds : HoldsFile d' root e' q ↔ HoldsFile d root e q := by
    rw [HoldsFile, HoldsFile, ← node]
    refine or_congr_right (and_congr_right fun link => ?_)
    rw [Disk.isDirectory, Disk.isDirectory, nodeAt_eq change hroot habs other (.inr link)]
  constructor
  · rintro ⟨h, h', named⟩
    exact ⟨holds.1 h, reached.2 h', named⟩
  · rintro ⟨h, h', named⟩
    exact ⟨holds.2 h, reached.1 h', named⟩

/-- The other files are the same, in the same order. -/
theorem others_eq : others d' root c e' place = others d root c e place := by
  have nodup := nodup_places (c := c) change.proper hroot
  have nodup' := nodup_places (c := c) change.proper' hroot'
  refine eq_of_inOrder (others_inOrder _ _ _ _ _) (others_inOrder _ _ _ _ _) (List.Perm.map _ ?_)
  refine (List.perm_ext_iff_of_nodup (nodup'.filter _) (nodup.filter _)).2 fun q => ?_
  simp only [List.mem_filter, mem_places change.proper hroot, mem_places change.proper' hroot',
    bne_iff_ne]
  exact and_congr_left fun other => eligible_iff change hroot hroot' habs other

omit habs

/-- The changed file is eligible when a file in its place is found. -/
theorem eligible_after : Eligible d' root c e' place ↔ Findable c e place := by
  obtain ⟨content, node⟩ := change.after
  rw [Entry.node?_of_at? (found_above_after change hroot hroot')] at node
  rw [eligible_of_file node, Findable, Findable,
    (directories_agree change hroot hroot').reached place]

end Walks

end Discovery

end ModuleAtlas
